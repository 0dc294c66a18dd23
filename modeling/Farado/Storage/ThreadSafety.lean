import Farado.Lib.SharedMutex
import Farado.Lib.Steps.Runs
import Mathlib.Logic.Function.Basic

/-!
# Threads on connections

`SqliteConnection`, its statements and its transactions, called by any number of threads. Every call
takes the connection's mutex first, unless the thread's flag `isInTransaction` says that a
transaction of the thread has it already. There is one flag for each thread, whatever the number of
connections.

A transaction here is what a `SqliteTransaction` begins; other SQL may end one.
-/

namespace Farado.ThreadSafety

open Steps

/-- The calls that take the mutex: those of `SqliteConnection`, of a statement (`reset` and the
destructor among them), of a result set, and of a transaction. -/
inductive Call where
  | execute | lastInsertId
  | prepareStatement | statementExecute | statementReset | statementDestructor
  | resultSetNext
  | beginTransaction | commit | rollback | transactionDestructor
  deriving DecidableEq, Repr

/-- `ExclusiveLock` or `SharedLock`. What a transaction runs, it runs through `execute`. -/
def Call.lock : Call → LockKind
  | .lastInsertId | .prepareStatement | .resultSetNext => .shared
  | _ => .exclusive

/-- The calls of a transaction object. -/
def Call.ofTransaction : Call → Bool
  | .beginTransaction | .commit | .rollback | .transactionDestructor => true
  | _ => false

/-- Where a thread is: in no call; before the SQL of a call, with what its `ScopedLock` holds; or
after it. `ending` is the rest of the transaction's destructor. -/
inductive Place (Conn : Type) where
  | idle
  | inside (c : Conn) (call : Call) (lock : Option LockKind)
  | leaving (c : Conn) (lock : Option LockKind) (ending : Bool)
  deriving DecidableEq, Repr

/-- All threads and connections. `transaction t c` is the `SqliteTransaction` that `t` has on `c`,
if any, with its `m_active`; `begun c` is the thread whose BEGIN on `c` has not ended. -/
structure System (Thread Conn : Type) where
  mutex : Conn → SharedMutex Thread
  isInTransaction : Thread → Bool
  transaction : Thread → Conn → Option Bool
  begun : Conn → Option Thread
  place : Thread → Place Conn

/-- What comes of a piece of SQL: it succeeds, it fails, or it is over and with it the transaction
it ran in (a COMMIT written out, an automatic rollback). -/
inductive SqlOutcome where
  | ok | failed | ended
  deriving DecidableEq, Repr

/-- A thread begins a call, runs its SQL, or finishes the call. -/
inductive Action (Thread Conn : Type) where
  | call (t : Thread) (c : Conn) (call : Call)
  | sql (t : Thread) (outcome : SqlOutcome)
  | leave (t : Thread)
  deriving DecidableEq, Repr

variable {Thread Conn : Type}

/-- Nobody has called anything. -/
def System.initial : System Thread Conn where
  mutex _ := .free
  isInTransaction _ := false
  transaction _ _ := none
  begun _ := none
  place _ := .idle

namespace System

variable [DecidableEq Thread] [DecidableEq Conn] (s : System Thread Conn)

@[simps]
def goto (t : Thread) (place : Place Conn) : System Thread Conn :=
  { s with place := Function.update s.place t place }

@[simps]
def setMutex (c : Conn) (m : SharedMutex Thread) : System Thread Conn :=
  { s with mutex := Function.update s.mutex c m }

@[simps]
def setFlag (t : Thread) (flag : Bool) : System Thread Conn :=
  { s with isInTransaction := Function.update s.isInTransaction t flag }

@[simps]
def setBegun (c : Conn) (beginner : Option Thread) : System Thread Conn :=
  { s with begun := Function.update s.begun c beginner }

@[simps]
def setTransaction (t : Thread) (c : Conn) (active : Option Bool) : System Thread Conn :=
  { s with transaction := fun u d => if u = t ∧ d = c then active else s.transaction u d }

/-- `ScopedLock`, at the beginning of a call. A thread that would wait for itself gets an exception;
the destructor swallows it and goes on without the ROLLBACK. -/
def enter (t : Thread) (c : Conn) (call : Call) : System Thread Conn :=
  if s.isInTransaction t then s.goto t (.inside c call none)
  else
    match (s.mutex c).acquire call.lock t with
    | .acquired m => (s.setMutex c m).goto t (.inside c call (some call.lock))
    | .blocked => s
    | .deadlock =>
        if call = .transactionDestructor then s.goto t (.leaving c none true) else s

/-- The constructor of `SqliteTransaction` up to its BEGIN: the mutex is the transaction's own. -/
def begin (t : Thread) (c : Conn) : System Thread Conn :=
  match (s.mutex c).acquire .exclusive t with
  | .acquired m => ((s.setMutex c m).setFlag t true).goto t (.inside c .beginTransaction none)
  | .blocked => s
  | .deadlock => s

/-- The beginning of a call. Without a transaction there is nothing to end, and one that is not
active throws. -/
def call (t : Thread) (c : Conn) (call : Call) : System Thread Conn :=
  match call with
  | .beginTransaction => s.begin t c
  | .commit | .rollback => if s.transaction t c = some true then s.enter t c call else s
  | .transactionDestructor =>
      match s.transaction t c with
      | some true => s.enter t c call
      | some false => s.goto t (.leaving c none true)
      | none => s
  | _ => s.enter t c call

/-- SQL that is over, whatever came of it; the transaction it ran in may have gone with it. -/
def finish (t : Thread) (c : Conn) (lock : Option LockKind) (outcome : SqlOutcome) :
    System Thread Conn :=
  (if outcome = .ended then s.setBegun c none else s).goto t (.leaving c lock false)

/-- A COMMIT or ROLLBACK that succeeds, up to `m_active = false`. -/
def finishTransaction (t : Thread) (c : Conn) (lock : Option LockKind) : System Thread Conn :=
  ((s.setBegun c none).setTransaction t c (some false)).goto t (.leaving c lock false)

/-- The SQL of a call. BEGIN fails inside a transaction, COMMIT and ROLLBACK outside of one; a
ROLLBACK inside does not fail. -/
def sql (t : Thread) (c : Conn) (call : Call) (lock : Option LockKind) (outcome : SqlOutcome) :
    System Thread Conn :=
  match call with
  | .beginTransaction =>
      if outcome = .ok ∧ s.begun c = none then
        ((s.setBegun c (some t)).setTransaction t c (some true)).goto t .idle
      else
        -- the catch clears the flag, and the constructor gives the mutex back
        (s.setFlag t false).goto t (.leaving c (some .exclusive) false)
  | .commit =>
      if outcome = .ok ∧ s.begun c ≠ none then s.finishTransaction t c lock
      else s.finish t c lock outcome
  | .rollback =>
      if s.begun c ≠ none then s.finishTransaction t c lock else s.finish t c lock outcome
  | .transactionDestructor => (s.setBegun c none).goto t (.leaving c lock true)
  | _ => s.finish t c lock outcome

/-- What a `ScopedLock` does in the end. -/
def unlock (t : Thread) (c : Conn) (lock : Option LockKind) : System Thread Conn :=
  match lock with
  | none => s
  | some kind => s.setMutex c ((s.mutex c).release kind t)

/-- The end of a call. A destroyed transaction clears the flag and releases its own lock. -/
def leave (t : Thread) (c : Conn) (lock : Option LockKind) (ending : Bool) : System Thread Conn :=
  if ending then
    ((((s.unlock t c lock).setFlag t false).unlock t c (some .exclusive)).setTransaction t c
      none).goto t .idle
  else (s.unlock t c lock).goto t .idle

/-- One step of one thread. A step that is not there to be taken, or not yet, changes nothing. -/
def exec : Action Thread Conn → System Thread Conn
  | .call t c call => if s.place t = .idle then s.call t c call else s
  | .sql t outcome =>
      match s.place t with
      | .inside c call lock => s.sql t c call lock outcome
      | _ => s
  | .leave t =>
      match s.place t with
      | .leaving c lock ending => s.leave t c lock ending
      | _ => s

end System

/-! ## What keeps the threads apart -/

section
variable [DecidableEq Thread] [DecidableEq Conn] {s s' : System Thread Conn} {t u : Thread}
  {c : Conn}

/-- The thread has the mutex: through its transaction, or through this lock and then without one. -/
def Locked (s : System Thread Conn) (t : Thread) (c : Conn) : Option LockKind → Prop
  | none => (s.mutex c).Holds .exclusive t
  | some kind => (s.mutex c).Holds kind t ∧ s.transaction t c = none

/-- What a thread relies on where it is. -/
def InPlace (s : System Thread Conn) (t : Thread) : Place Conn → Prop
  | .idle => True
  | .inside c call lock => Locked s t c lock ∧
      (call = .beginTransaction → lock = none ∧ s.transaction t c = none) ∧
      (call = .commit ∨ call = .rollback ∨ call = .transactionDestructor →
        s.transaction t c = some true)
  | .leaving c lock ending => Locked s t c lock ∧
      (ending = true → lock = none ∧ s.begun c ≠ some t)

/-- A transaction owns the mutex of its connection, and a BEGIN that has not ended is that of an
active transaction. -/
structure Safe (s : System Thread Conn) : Prop where
  owns : ∀ t c active, s.transaction t c = some active → (s.mutex c).Holds .exclusive t
  active : ∀ t c, s.begun c = some t → s.transaction t c = some true
  inPlace : ∀ t, InPlace s t (s.place t)

/-- What a step of the thread `t` on the connection `c` leaves alone. -/
structure Moves (t : Thread) (c : Conn) (s s' : System Thread Conn) : Prop where
  place : ∀ u, u ≠ t → s'.place u = s.place u
  transaction : ∀ u d, ¬ (u = t ∧ d = c) → s'.transaction u d = s.transaction u d
  mutex : ∀ d, d ≠ c → s'.mutex d = s.mutex d
  begun : ∀ d, d ≠ c → s'.begun d = s.begun d
  holders : ∀ kind u, u ≠ t → (s.mutex c).Holds kind u → (s'.mutex c).Holds kind u
  others : ∀ u, u ≠ t → s'.begun c = some u → s.begun c = some u

omit [DecidableEq Thread] [DecidableEq Conn] in
theorem Moves.refl : Moves t c s s :=
  ⟨fun _ _ => rfl, fun _ _ _ => rfl, fun _ _ => rfl, fun _ _ => rfl, fun _ _ _ h => h,
    fun _ _ h => h⟩

omit [DecidableEq Conn] in
theorem Moves.goto (h : Moves t c s s') (place : Place Conn) : Moves t c s (s'.goto t place) := by
  refine ⟨fun u hut => ?_, h.transaction, h.mutex, h.begun, h.holders, h.others⟩
  rw [System.goto_place, Function.update_of_ne hut, h.place u hut]

omit [DecidableEq Conn] in
theorem Moves.setFlag (h : Moves t c s s') (flag : Bool) : Moves t c s (s'.setFlag t flag) :=
  ⟨h.place, h.transaction, h.mutex, h.begun, h.holders, h.others⟩

theorem Moves.setTransaction (h : Moves t c s s') (active : Option Bool) :
    Moves t c s (s'.setTransaction t c active) := by
  refine ⟨h.place, fun u d hud => ?_, h.mutex, h.begun, h.holders, h.others⟩
  rw [System.setTransaction_transaction, if_neg hud, h.transaction u d hud]

omit [DecidableEq Thread] in
/-- A step ends whatever BEGIN there is, or makes its own. -/
theorem Moves.setBegun (h : Moves t c s s') {beginner : Option Thread}
    (hbeginner : ∀ u, beginner = some u → u = t) : Moves t c s (s'.setBegun c beginner) := by
  refine ⟨h.place, h.transaction, h.mutex, fun d hdc => ?_, h.holders, fun u hut hu => ?_⟩
  · rw [System.setBegun_begun, Function.update_of_ne hdc, h.begun d hdc]
  · rw [System.setBegun_begun, Function.update_self] at hu
    exact absurd (hbeginner u hu) hut

omit [DecidableEq Thread] in
theorem Moves.setMutex (h : Moves t c s s') {m : SharedMutex Thread}
    (hkeep : ∀ k u, u ≠ t → (s'.mutex c).Holds k u → m.Holds k u) :
    Moves t c s (s'.setMutex c m) := by
  refine ⟨h.place, h.transaction, fun d hdc => ?_, h.begun, fun k u hut hu => ?_, h.others⟩
  · rw [System.setMutex_mutex, Function.update_of_ne hdc, h.mutex d hdc]
  · rw [System.setMutex_mutex, Function.update_self]
    exact hkeep k u hut (h.holders k u hut hu)

theorem Moves.unlock (h : Moves t c s s') {lock : Option LockKind}
    (hlock : ∀ kind, lock = some kind → (s'.mutex c).Holds kind t) :
    Moves t c s (s'.unlock t c lock) := by
  cases lock with
  | none => exact h
  | some kind => exact h.setMutex fun k u hut hu => (hlock kind rfl).release hu hut

omit [DecidableEq Thread] in
/-- What the other threads rely on stands. -/
theorem Moves.inPlace (h : Moves t c s s') {place : Place Conn} (hne : u ≠ t)
    (hu : InPlace s u place) : InPlace s' u place := by
  have htransaction : ∀ d, s'.transaction u d = s.transaction u d :=
    fun d => h.transaction u d fun hud => hne hud.1
  have hholds : ∀ kind d, (s.mutex d).Holds kind u → (s'.mutex d).Holds kind u := by
    intro kind d hd
    by_cases hdc : d = c
    · rw [hdc] at hd ⊢
      exact h.holders kind u hne hd
    · rwa [h.mutex d hdc]
  have hlocked : ∀ d lock, Locked s u d lock → Locked s' u d lock := by
    intro d lock hd
    cases lock with
    | none => exact hholds .exclusive d hd
    | some kind => exact ⟨hholds _ d hd.1, by rw [htransaction, hd.2]⟩
  cases place with
  | idle => trivial
  | inside d call lock =>
    obtain ⟨hlock, hbegin, htx⟩ := hu
    refine ⟨hlocked d lock hlock, ?_, ?_⟩
    · rwa [htransaction]
    · rwa [htransaction]
  | leaving d lock ending =>
    obtain ⟨hlock, hending⟩ := hu
    refine ⟨hlocked d lock hlock, fun he => ⟨(hending he).1, fun hbegun => ?_⟩⟩
    by_cases hdc : d = c
    · rw [hdc] at hending hbegun
      exact (hending he).2 (h.others u hne hbegun)
    · rw [h.begun d hdc] at hbegun
      exact (hending he).2 hbegun

/-- **What a step has to keep.** The rest is what it leaves alone. -/
theorem Safe.moves (h : Safe s) (hmoves : Moves t c s s')
    (howns : ∀ active, s'.transaction t c = some active → (s'.mutex c).Holds .exclusive t)
    (hactive : s'.begun c = some t → s'.transaction t c = some true)
    (hplace : InPlace s' t (s'.place t)) : Safe s' := by
  constructor
  case owns =>
    intro u d active htx
    by_cases hud : u = t ∧ d = c
    · rw [hud.1, hud.2] at htx ⊢
      exact howns active htx
    · rw [hmoves.transaction u d hud] at htx
      have hholds := h.owns u d active htx
      by_cases hdc : d = c
      · rw [hdc] at hholds ⊢
        exact hmoves.holders _ u (fun hut => hud ⟨hut, hdc⟩) hholds
      · rwa [hmoves.mutex d hdc]
  case active =>
    intro u d hbegun
    by_cases hud : u = t ∧ d = c
    · rw [hud.1, hud.2] at hbegun ⊢
      exact hactive hbegun
    · rw [hmoves.transaction u d hud]
      apply h.active u d
      by_cases hdc : d = c
      · rw [hdc] at hbegun ⊢
        exact hmoves.others u (fun hut => hud ⟨hut, hdc⟩) hbegun
      · rwa [hmoves.begun d hdc] at hbegun
  case inPlace =>
    intro u
    by_cases hut : u = t
    · rwa [hut]
    · rw [hmoves.place u hut]
      exact hmoves.inPlace hut (h.inPlace u)

/-! ## The steps -/

omit [DecidableEq Conn] in
/-- Going somewhere is seen by nobody, wherever they are. -/
theorem inPlace_goto {place there : Place Conn} (h : InPlace s u there) :
    InPlace (s.goto t place) u there := by
  cases there <;> exact h

omit [DecidableEq Conn] in
/-- The flag is seen by nobody but its thread. -/
theorem inPlace_setFlag {flag : Bool} {there : Place Conn}
    (h : InPlace s u there) : InPlace (s.setFlag t flag) u there := by
  cases there <;> exact h

omit [DecidableEq Conn] in
theorem Safe.setFlag (h : Safe s) (flag : Bool) : Safe (s.setFlag t flag) :=
  ⟨h.owns, h.active, fun u => inPlace_setFlag (h.inPlace u)⟩

omit [DecidableEq Conn] in
/-- A step to another place that changes nothing else. -/
theorem Safe.goto (h : Safe s) {place : Place Conn} (hplace : InPlace s t place) :
    Safe (s.goto t place) := by
  refine ⟨h.owns, h.active, fun u => inPlace_goto ?_⟩
  by_cases hut : u = t
  · rw [hut, System.goto_place, Function.update_self]
    exact hplace
  · rw [System.goto_place, Function.update_of_ne hut]
    exact h.inPlace u

omit [DecidableEq Conn] in
/-- Where the mutex was taken, nobody had a transaction. -/
theorem Safe.transaction_of_acquire (h : Safe s) {kind : LockKind} {m : SharedMutex Thread}
    (hm : (s.mutex c).acquire kind t = .acquired m) (u : Thread) : s.transaction u c = none := by
  cases htx : s.transaction u c with
  | none => rfl
  | some active =>
    exact absurd (h.owns u c active htx) ((SharedMutex.acquire_eq_acquired hm).2.2 u)

/-- Taking the mutex. -/
theorem Safe.acquire (h : Safe s) {kind : LockKind} {m : SharedMutex Thread} {place : Place Conn}
    (hm : (s.mutex c).acquire kind t = .acquired m) (hplace : InPlace (s.setMutex c m) t place) :
    Safe ((s.setMutex c m).goto t place) := by
  obtain ⟨-, hkeep, -⟩ := SharedMutex.acquire_eq_acquired hm
  have hmoves : Moves t c s ((s.setMutex c m).goto t place) :=
    (Moves.refl.setMutex fun k u _ hu => hkeep k u hu).goto place
  refine h.moves hmoves ?_ (h.active t c) ?_
  · intro active htx
    have hnone := h.transaction_of_acquire hm t
    simp [hnone] at htx
  · rw [System.goto_place, Function.update_self]
    exact inPlace_goto hplace

theorem Safe.begin (h : Safe s) : Safe (s.begin t c) := by
  unfold System.begin
  split
  · next m hm =>
    have hself := (SharedMutex.acquire_eq_acquired hm).1
    refine (h.acquire hm ?_).setFlag true
    refine ⟨?_, fun _ => ⟨rfl, h.transaction_of_acquire hm t⟩, nofun⟩
    simpa [Locked] using hself
  · exact h
  · exact h

/-- A call that may skip the lock has its transaction's. -/
theorem Safe.enter (h : Safe s) {call : Call} (hbegin : call ≠ .beginTransaction)
    (htransaction : call = .commit ∨ call = .rollback ∨ call = .transactionDestructor →
      s.transaction t c = some true)
    (hflag : s.isInTransaction t = true → (s.transaction t c).isSome)
    (hdestructor : call = .transactionDestructor → s.isInTransaction t = true) :
    Safe (s.enter t c call) := by
  unfold System.enter
  split
  · next hin =>
    obtain ⟨active, hactive⟩ := Option.isSome_iff_exists.mp (hflag hin)
    refine h.goto ⟨h.owns t c active hactive, ?_, htransaction⟩
    exact fun hcall => absurd hcall hbegin
  · next hout =>
    split
    · next m hm =>
      have hself := (SharedMutex.acquire_eq_acquired hm).1
      have hnone := h.transaction_of_acquire hm t
      refine h.acquire hm ⟨⟨?_, hnone⟩, fun hcall => absurd hcall hbegin, htransaction⟩
      simpa using hself
    · exact h
    · split
      · next hcall => exact absurd (hdestructor hcall) hout
      · exact h

/-- The SQL is over. -/
theorem Safe.finish (h : Safe s) {lock : Option LockKind} (hlock : Locked s t c lock)
    (outcome : SqlOutcome) : Safe (s.finish t c lock outcome) := by
  unfold System.finish
  split
  · have hmoves : Moves t c s ((s.setBegun c none).goto t (.leaving c lock false)) :=
      (Moves.refl.setBegun nofun).goto _
    refine h.moves hmoves (h.owns t c) ?_ ?_
    · simp
    · rw [System.goto_place, Function.update_self]
      cases lock <;> exact ⟨hlock, nofun⟩
  · exact h.goto ⟨hlock, nofun⟩

theorem Safe.finishTransaction (h : Safe s) {lock : Option LockKind} (hlock : Locked s t c lock)
    (htransaction : s.transaction t c = some true) : Safe (s.finishTransaction t c lock) := by
  have howns := h.owns t c true htransaction
  have hmoves : Moves t c s (s.finishTransaction t c lock) :=
    ((Moves.refl.setBegun nofun).setTransaction _).goto _
  refine h.moves hmoves (fun _ _ => howns) ?_ ?_
  · simp [System.finishTransaction]
  · simp only [System.finishTransaction, System.goto_place, Function.update_self]
    cases lock with
    | none => exact ⟨hlock, nofun⟩
    | some kind =>
      rw [hlock.2] at htransaction
      cases htransaction

theorem Safe.sql (h : Safe s) {call : Call} {lock : Option LockKind} {outcome : SqlOutcome}
    (hplace : InPlace s t (.inside c call lock)) : Safe (s.sql t c call lock outcome) := by
  obtain ⟨hlock, hbegin, htransaction⟩ := hplace
  cases call
  case beginTransaction =>
    obtain ⟨rfl, hnone⟩ := hbegin rfl
    simp only [System.sql]
    split
    · have hbeginner : ∀ u, some t = some u → u = t := fun u hu => (Option.some.inj hu).symm
      have hmoves : Moves t c s
          (((s.setBegun c (some t)).setTransaction t c (some true)).goto t .idle) :=
        ((Moves.refl.setBegun hbeginner).setTransaction _).goto _
      refine h.moves hmoves (fun _ _ => hlock) ?_ ?_
      · simp
      · rw [System.goto_place, Function.update_self]
        trivial
    · exact (h.setFlag false).goto ⟨⟨hlock, hnone⟩, nofun⟩
  case commit =>
    simp only [System.sql]
    split
    · exact h.finishTransaction hlock (htransaction (.inl rfl))
    · exact h.finish hlock outcome
  case rollback =>
    simp only [System.sql]
    split
    · exact h.finishTransaction hlock (htransaction (.inr (.inl rfl)))
    · exact h.finish hlock outcome
  case transactionDestructor =>
    have hactive := htransaction (.inr (.inr rfl))
    have hmoves : Moves t c s ((s.setBegun c none).goto t (.leaving c lock true)) :=
      (Moves.refl.setBegun nofun).goto _
    simp only [System.sql]
    refine h.moves hmoves (h.owns t c) ?_ ?_
    · simp
    · rw [System.goto_place, Function.update_self]
      cases lock with
      | none => exact ⟨hlock, fun _ => ⟨rfl, by simp⟩⟩
      | some kind =>
        rw [hlock.2] at hactive
        cases hactive
  all_goals exact h.finish hlock outcome

@[simp]
theorem unlock_transaction (lock : Option LockKind) :
    (s.unlock t c lock).transaction = s.transaction := by
  cases lock <;> rfl

@[simp]
theorem unlock_begun (lock : Option LockKind) : (s.unlock t c lock).begun = s.begun := by
  cases lock <;> rfl

theorem Safe.leave (h : Safe s) {lock : Option LockKind} {ending : Bool}
    (hplace : InPlace s t (.leaving c lock ending)) : Safe (s.leave t c lock ending) := by
  obtain ⟨hlock, hending⟩ := hplace
  unfold System.leave
  split
  · next he =>
    obtain ⟨rfl, hbegun⟩ := hending he
    have hexclusive : ∀ kind, some LockKind.exclusive = some kind →
        (((s.unlock t c none).setFlag t false).mutex c).Holds kind t := by
      rintro kind ⟨⟩
      exact hlock
    have hunlocked : Moves t c s (s.unlock t c none) := Moves.refl
    have hreleased := (hunlocked.setFlag false).unlock hexclusive
    refine h.moves ((hreleased.setTransaction none).goto .idle) ?_ ?_ ?_
    · simp
    · simp [hbegun]
    · rw [System.goto_place, Function.update_self]
      trivial
  · cases lock with
    | none => exact h.goto trivial
    | some kind =>
      have hkind : ∀ k, some kind = some k → (s.mutex c).Holds k t := by
        rintro k ⟨⟩
        exact hlock.1
      refine h.moves ((Moves.refl.unlock hkind).goto .idle) ?_ ?_ ?_
      · simp [hlock.2]
      · simpa using h.active t c
      · rw [System.goto_place, Function.update_self]
        trivial

/-- The condition on a step, in the state before it. A thread whose flag is set calls only
connections on which it has a transaction, and destroys an active transaction only while its flag is
set. -/
def Heeds (s : System Thread Conn) : Action Thread Conn → Prop
  | .call t c call =>
      (call.ofTransaction = false → s.isInTransaction t = true → (s.transaction t c).isSome) ∧
        (call = .transactionDestructor → s.transaction t c = some true → s.isInTransaction t = true)
  | .sql _ _ => True
  | .leave _ => True

instance Heeds.decidable : ∀ action, Decidable (Heeds s action)
  | .call _ _ _ => inferInstanceAs (Decidable (_ ∧ _))
  | .sql _ _ => isTrue trivial
  | .leave _ => isTrue trivial

theorem Safe.call (h : Safe s) {call : Call} (hheeds : Heeds s (.call t c call)) :
    Safe (s.call t c call) := by
  obtain ⟨hflag, hdestructor⟩ := hheeds
  cases call
  case beginTransaction => exact h.begin
  case commit =>
    simp only [System.call]
    split
    · next hactive =>
      exact h.enter nofun (fun _ => hactive) (fun _ => by simp [hactive]) nofun
    · exact h
  case rollback =>
    simp only [System.call]
    split
    · next hactive =>
      exact h.enter nofun (fun _ => hactive) (fun _ => by simp [hactive]) nofun
    · exact h
  case transactionDestructor =>
    simp only [System.call]
    split
    · next hactive =>
      exact h.enter nofun (fun _ => hactive) (fun _ => by simp [hactive])
        fun _ => hdestructor rfl hactive
    · next hover =>
      refine h.goto ⟨h.owns t c false hover, fun _ => ⟨rfl, fun hbegun => ?_⟩⟩
      rw [h.active t c hbegun] at hover
      cases hover
    · exact h
  all_goals
    exact h.enter nofun (by simp) (hflag rfl) nofun

/-- **The step lemma.** -/
theorem Safe.exec (h : Safe s) (action : Action Thread Conn) (hheeds : Heeds s action) :
    Safe (s.exec action) := by
  cases action with
  | call t c call =>
    simp only [System.exec]
    split
    · exact h.call hheeds
    · exact h
  | sql t outcome =>
    simp only [System.exec]
    split
    · next hplace => exact h.sql (hplace ▸ h.inPlace t)
    · exact h
  | leave t =>
    simp only [System.exec]
    split
    · next hplace => exact h.leave (hplace ▸ h.inPlace t)
    · exact h

omit [DecidableEq Thread] [DecidableEq Conn] in
theorem safe_initial : Safe (System.initial : System Thread Conn) :=
  ⟨nofun, nofun, fun _ => trivial⟩

omit [DecidableEq Thread] [DecidableEq Conn] in
/-- Inside a call on the connection there is only the thread whose transaction it is. -/
theorem Safe.eq_of_inside (h : Safe s) {call : Call} {lock : Option LockKind}
    (hplace : s.place u = .inside c call lock) (hbegun : s.begun c = some t) : u = t := by
  have howns : (s.mutex c).Holds .exclusive t := h.owns t c true (h.active t c hbegun)
  have hinside : InPlace s u (.inside c call lock) := hplace ▸ h.inPlace u
  cases lock with
  | none =>
    have hlocked : (s.mutex c).Holds .exclusive u := hinside.1
    exact howns.eq_of_exclusive hlocked
  | some kind =>
    have hlocked : (s.mutex c).Holds kind u := hinside.1.1
    exact howns.eq_of_exclusive hlocked

end

/-- In every state of the run, the SQL of a call runs on a connection only if no other thread is
between BEGIN and COMMIT or ROLLBACK there. -/
def Isolated {Thread Conn : Type} [DecidableEq Thread] [DecidableEq Conn]
    (actions : List (Action Thread Conn)) : Prop :=
  ∀ before after t u c call lock outcome, actions = before ++ .sql u outcome :: after →
    (before.foldl System.exec .initial).place u = .inside c call lock →
    (before.foldl System.exec .initial).begun c = some t → u = t

/-- **Transactions are undisturbed** where every step meets the condition, whatever order the
threads take their steps in. -/
theorem transactions_isolated {Thread Conn : Type} [DecidableEq Thread] [DecidableEq Conn]
    (actions : List (Action Thread Conn)) (h : Along System.exec Heeds .initial actions) :
    Isolated actions := by
  intro before after t u c call lock outcome hactions hplace hbegun
  rw [hactions] at h
  have hsafe : Safe (before.foldl System.exec .initial) :=
    h.of_append.invariant (fun s action hs => hs.exec action) safe_initial
  exact hsafe.eq_of_inside hplace hbegun

/-- Thread 1 has a transaction on connection 7, and thread 2 has to wait for its end; on connection
8 it has not. -/
theorem transactions_isolated_twoThreads :
    Isolated [.call 1 7 .beginTransaction, .sql 1 .ok, .call 2 7 .execute, .call 2 8 .execute,
      .sql 2 .ok, .call 1 7 .statementExecute, .sql 1 .ok, .leave 1, .leave 2, .call 1 7 .commit,
      .sql 1 .ok, .leave 1, .call 1 7 .transactionDestructor, .leave 1, .call 2 7 .execute,
      .sql 2 .ok] :=
  transactions_isolated _ (by decide +kernel)

/-- Thread 1 has a transaction on connection 7, so its flag is set, and nothing keeps it out of the
transaction of thread 2 on connection 8. -/
theorem not_isolated_twoConnections :
    ¬ ∀ actions : List (Action Nat Nat), Isolated actions := by
  intro h
  have htwo : (1 : Nat) = 2 :=
    h _ [.call 1 7 .beginTransaction, .sql 1 .ok, .call 2 8 .beginTransaction, .sql 2 .ok,
      .call 1 8 .execute] [] 2 1 8 .execute none .ok rfl (by decide +kernel) (by decide +kernel)
  cases htwo

end Farado.ThreadSafety
