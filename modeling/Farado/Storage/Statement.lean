import Farado.Lib.Calls
import Farado.Storage.Text

/-!
# Prepared statements

`SqliteStatement` over the statements of SQLite. An execution that fails leaves `execute` before the
statement is reset, and the reset that follows reports the failure once more: it leaves
`unsafeReset` before the bindings are cleared.
-/

namespace Farado

/-! ## SQLite -/

namespace Sqlite

def sqliteOk : Int := 0
def sqliteMisuse : Int := 21
def sqliteRow : Int := 100
def sqliteDone : Int := 101

/-- How far a statement is: not begun, at a row, or at its end with a result code. -/
inductive Progress where
  | ready
  | row
  | halted (rc : Int)
  deriving DecidableEq

/-- `sqlite3_stmt` -/
structure Stmt where
  bindings : Nat → SqlValue
  progress : Progress

/-- What the SQL of the statement does. A parameter that there is not has the index 0. -/
structure Engine (World : Type) where
  parameterIndex : Bytes → Nat
  /-- The first step of an execution, with the bindings. -/
  start : (Nat → SqlValue) → World → Int × World
  /-- The steps after it. -/
  next : World → Int × World
  changes : World → Int
  errmsg : World → Int → Bytes

/-- `sqlite3_prepare_v2` -/
def prepared : Stmt := { bindings := fun _ => .null, progress := .ready }

def Progress.ofCode (rc : Int) : Progress := if rc = sqliteRow then .row else .halted rc

/-- `sqlite3_step`: a statement that has come to its end begins again, with the same bindings. -/
def step {World : Type} (E : Engine World) (stmt : Stmt) (w : World) : Int × Stmt × World :=
  match stmt.progress with
  | .row =>
      let (rc, w) := E.next w
      (rc, { stmt with progress := .ofCode rc }, w)
  | _ =>
      let (rc, w) := E.start stmt.bindings w
      (rc, { stmt with progress := .ofCode rc }, w)

/-- `sqlite3_reset`: the code is that of the last step, if it failed. -/
def reset (stmt : Stmt) : Int × Stmt :=
  match stmt.progress with
  | .halted rc => (if rc = sqliteDone then sqliteOk else rc, { stmt with progress := .ready })
  | _ => (sqliteOk, { stmt with progress := .ready })

/-- `sqlite3_clear_bindings` -/
def clearBindings (stmt : Stmt) : Int × Stmt :=
  (sqliteOk, { stmt with bindings := fun _ => .null })

/-- `sqlite3_bind_*`: not between the first step and the reset. -/
def bind (stmt : Stmt) (index : Nat) (value : SqlValue) : Int × Stmt :=
  match stmt.progress with
  | .ready => (sqliteOk, { stmt with bindings := Function.update stmt.bindings index value })
  | _ => (sqliteMisuse, stmt)

end Sqlite

/-! ## The class -/

structure SqliteStatement where
  stmt : Sqlite.Stmt
  paramIndexCache : List (Bytes × Nat)

/-- The code of a method; what is thrown is a `std::runtime_error`. -/
abbrev Method (World α : Type) := Calls.Method Bytes (SqliteStatement × World) α

/-- What a bind gets. A time point is the text that `dateTimeToString` makes of it. -/
inductive BindValue where
  | null
  | int64 (n : Int)
  | double (bits : UInt64)
  | string (s : Bytes)
  | blob (b : Bytes)
  | dateTime (iso8601 : Bytes)

namespace BindValue

/-- What `checkError` calls the bind. -/
def operation : BindValue → String
  | .null => "Bind null"
  | .int64 _ => "Bind int64"
  | .double _ => "Bind double"
  | .string _ | .dateTime _ => "Bind string"
  | .blob _ => "Bind blob"

/-- The value as SQLite gets it; an empty vector has no data, and no data is NULL. -/
def sqlValue : BindValue → SqlValue
  | .null => .null
  | .int64 n => .integer n
  | .double bits => .real bits
  | .string s | .dateTime s => .text (bindString s)
  | .blob b => if b.isEmpty then .null else .blob b

end BindValue

namespace SqliteStatement

open Calls

/-- After the constructor. -/
def prepareStatement : SqliteStatement where
  stmt := Sqlite.prepared
  paramIndexCache := []

section
variable {World : Type} (E : Sqlite.Engine World)

/-- A call of SQLite on the statement. -/
def onStmt (f : Sqlite.Stmt → Int × Sqlite.Stmt) : Method World Int :=
  ExceptT.mk fun (s, w) => (.ok (f s.stmt).1, { s with stmt := (f s.stmt).2 }, w)

def sqlite3Step : Method World Int :=
  ExceptT.mk fun (s, w) =>
    let (rc, stmt, w) := Sqlite.step E s.stmt w
    (.ok rc, { s with stmt }, w)

def isError (rc : Int) : Bool :=
  rc != Sqlite.sqliteOk && rc != Sqlite.sqliteRow && rc != Sqlite.sqliteDone

def failure (operation : String) (rc : Int) (w : World) : Bytes :=
  bytes operation ++ bytes " failed: " ++ E.errmsg w rc

def checkError (rc : Int) (operation : String) : Method World Unit :=
  ExceptT.mk fun (s, w) => (if isError rc then .error (failure E operation rc w) else .ok (), s, w)

/-- The name in the SQL. -/
def paramName (name : Bytes) : Bytes := bytes ":" ++ name

def getParamIndex (name : Bytes) : Method World Nat :=
  ExceptT.mk fun (s, w) =>
    match s.paramIndexCache.lookup name with
    | some index => (.ok index, s, w)
    | none =>
        let index := E.parameterIndex (paramName name)
        if index = 0 then (.error (bytes "Parameter not found: " ++ name), s, w)
        else (.ok index, { s with paramIndexCache := (name, index) :: s.paramIndexCache }, w)

def bindAs (operation : String) (name : Bytes) (value : SqlValue) : Method World Unit := do
  let index ← getParamIndex E name
  let rc ← onStmt fun stmt => Sqlite.bind stmt index value
  checkError E rc operation

def bindNull (name : Bytes) : Method World Unit := bindAs E "Bind null" name .null

def bindInt64 (name : Bytes) (value : Int) : Method World Unit :=
  bindAs E "Bind int64" name (.integer value)

def bindDouble (name : Bytes) (value : UInt64) : Method World Unit :=
  bindAs E "Bind double" name (.real value)

def bindString (name value : Bytes) : Method World Unit :=
  bindAs E "Bind string" name (.text (Farado.bindString value))

def bindBlob (name value : Bytes) : Method World Unit :=
  bindAs E "Bind blob" name (if value.isEmpty then .null else .blob value)

def bindDateTime (name iso8601 : Bytes) : Method World Unit := bindString E name iso8601

def bind (name : Bytes) : BindValue → Method World Unit
  | .null => bindNull E name
  | .int64 n => bindInt64 E name n
  | .double bits => bindDouble E name bits
  | .string s => bindString E name s
  | .blob b => bindBlob E name b
  | .dateTime iso8601 => bindDateTime E name iso8601

def unsafeReset : Method World Unit := do
  let rc ← onStmt Sqlite.reset
  checkError E rc "Reset statement"
  let rc ← onStmt Sqlite.clearBindings
  checkError E rc "Clear bindings"

def execute : Method World Int := do
  let rc ← sqlite3Step E
  checkError E rc "Execute statement"
  let changes ← ExceptT.mk fun (s, w) => (.ok (E.changes w), s, w)
  unsafeReset E
  return changes

def reset : Method World Unit := unsafeReset E

/-! ## Calls -/

inductive Op where
  | bind (name : Bytes) (value : BindValue)
  | execute
  | reset

/-- What the caller sees: an exception, or what is returned. -/
abbrev Outcome := Except Bytes (Option Int)

/-- A call from outside, which catches what is thrown. -/
def call (op : Op) (s : SqliteStatement × World) : Outcome × SqliteStatement × World :=
  match op with
  | .bind name value => Prod.map (Except.map fun _ => none) id (exec (bind E name value) s)
  | .execute => Prod.map (Except.map some) id (exec (execute E) s)
  | .reset => Prod.map (Except.map fun _ => none) id (exec (reset E) s)

end

/-! ## What the calls come to -/

section
variable {World : Type} (E : Sqlite.Engine World)

/-! Without the cache of the indices. -/

def plainBind (name : Bytes) (value : BindValue) (stmt : Sqlite.Stmt) (w : World) :
    Outcome × Sqlite.Stmt × World :=
  let index := E.parameterIndex (paramName name)
  if index = 0 then (.error (bytes "Parameter not found: " ++ name), stmt, w)
  else
    let (rc, stmt) := Sqlite.bind stmt index value.sqlValue
    (if isError rc then .error (failure E value.operation rc w) else .ok none, stmt, w)

def plainExecute (stmt : Sqlite.Stmt) (w : World) : Outcome × Sqlite.Stmt × World :=
  let (rc, stmt, w) := Sqlite.step E stmt w
  if isError rc then (.error (failure E "Execute statement" rc w), stmt, w)
  else (.ok (some (E.changes w)), Sqlite.prepared, w)

def plainReset (stmt : Sqlite.Stmt) (w : World) : Outcome × Sqlite.Stmt × World :=
  let (rc, stmt) := Sqlite.reset stmt
  if isError rc then (.error (failure E "Reset statement" rc w), stmt, w)
  else (.ok none, Sqlite.prepared, w)

def plainCall (op : Op) (stmt : Sqlite.Stmt) (w : World) : Outcome × Sqlite.Stmt × World :=
  match op with
  | .bind name value => plainBind E name value stmt w
  | .execute => plainExecute E stmt w
  | .reset => plainReset E stmt w

/-- What is in the cache is so. -/
def Sound (cache : List (Bytes × Nat)) : Prop :=
  ∀ name index, cache.lookup name = some index →
    index ≠ 0 ∧ E.parameterIndex (paramName name) = index

variable {E}

theorem sound_nil : Sound E [] := nofun

theorem Sound.cons {cache : List (Bytes × Nat)} (h : Sound E cache) {name : Bytes}
    (hindex : E.parameterIndex (paramName name) ≠ 0) :
    Sound E ((name, E.parameterIndex (paramName name)) :: cache) := by
  intro other index hother
  rw [List.lookup_cons] at hother
  by_cases hname : other = name
  · subst hname
    rw [beq_self_eq_true] at hother
    cases hother
    exact ⟨hindex, rfl⟩
  · rw [beq_false_of_ne hname] at hother
    exact h other index hother

theorem exec_getParamIndex {s : SqliteStatement} (h : Sound E s.paramIndexCache) (name : Bytes)
    (w : World) :
    (E.parameterIndex (paramName name) = 0 ∧
      exec (getParamIndex E name) (s, w) =
        (.error (bytes "Parameter not found: " ++ name), s, w)) ∨
    E.parameterIndex (paramName name) ≠ 0 ∧ ∃ cache, Sound E cache ∧
      exec (getParamIndex E name) (s, w) =
        (.ok (E.parameterIndex (paramName name)), { s with paramIndexCache := cache }, w) := by
  have hexec : exec (getParamIndex E name) (s, w) =
      match s.paramIndexCache.lookup name with
      | some index => (.ok index, s, w)
      | none =>
          if E.parameterIndex (paramName name) = 0 then
            (.error (bytes "Parameter not found: " ++ name), s, w)
          else (.ok (E.parameterIndex (paramName name)),
            { s with paramIndexCache :=
                (name, E.parameterIndex (paramName name)) :: s.paramIndexCache }, w) := rfl
  rw [hexec]
  cases hlookup : s.paramIndexCache.lookup name with
  | some index =>
    obtain ⟨hne, hindex⟩ := h name index hlookup
    refine .inr ⟨hindex.symm ▸ hne, s.paramIndexCache, h, ?_⟩
    rw [hindex]
  | none =>
    dsimp only
    split
    · next hzero => exact .inl ⟨hzero, rfl⟩
    · next hne => exact .inr ⟨hne, _, h.cons hne, rfl⟩

theorem exec_checkError (rc : Int) (operation : String) (s : SqliteStatement × World) :
    exec (checkError E rc operation) s =
      (if isError rc then .error (failure E operation rc s.2) else .ok (), s) := rfl

theorem exec_checkError_bind {α : Type} (rc : Int) (operation : String) (k : Unit → Method World α)
    (s : SqliteStatement × World) :
    exec (checkError E rc operation >>= k) s =
      if isError rc then (.error (failure E operation rc s.2), s) else exec (k ()) s := by
  rw [exec_bind, exec_checkError]
  cases isError rc <;> rfl

theorem exec_onStmt_bind {α : Type} (f : Sqlite.Stmt → Int × Sqlite.Stmt) (k : Int → Method World α)
    (s : SqliteStatement) (w : World) :
    exec (onStmt f >>= k) (s, w) = exec (k (f s.stmt).1) ({ s with stmt := (f s.stmt).2 }, w) := by
  rw [exec_bind]
  rfl

theorem reset_progress (stmt : Sqlite.Stmt) : (Sqlite.reset stmt).2.progress = .ready := by
  unfold Sqlite.reset
  split <;> rfl

theorem bind_progress (stmt : Sqlite.Stmt) (index : Nat) (value : SqlValue) :
    (Sqlite.bind stmt index value).2.progress = stmt.progress := by
  unfold Sqlite.bind
  split <;> rfl

theorem exec_unsafeReset (s : SqliteStatement) (w : World) :
    exec (unsafeReset E) (s, w) =
      if isError (Sqlite.reset s.stmt).1 then
        (.error (failure E "Reset statement" (Sqlite.reset s.stmt).1 w),
          { s with stmt := (Sqlite.reset s.stmt).2 }, w)
      else (.ok (), { s with stmt := Sqlite.prepared }, w) := by
  unfold unsafeReset
  rw [exec_onStmt_bind, exec_checkError_bind]
  split
  · rfl
  · rw [exec_onStmt_bind, exec_checkError, Sqlite.clearBindings, reset_progress]
    rfl

theorem exec_bindAs {s : SqliteStatement} (h : Sound E s.paramIndexCache) (operation : String)
    (name : Bytes) (value : SqlValue) (w : World) :
    ∃ cache, Sound E cache ∧ exec (bindAs E operation name value) (s, w) =
      if E.parameterIndex (paramName name) = 0 then
        (.error (bytes "Parameter not found: " ++ name), s, w)
      else
        let bound := Sqlite.bind s.stmt (E.parameterIndex (paramName name)) value
        (if isError bound.1 then .error (failure E operation bound.1 w) else .ok (),
          { stmt := bound.2, paramIndexCache := cache }, w) := by
  unfold bindAs
  rw [exec_bind]
  rcases exec_getParamIndex h name w with ⟨hzero, hexec⟩ | ⟨hne, cache, hcache, hexec⟩
  · refine ⟨s.paramIndexCache, h, ?_⟩
    rw [hexec, if_pos hzero]
  · refine ⟨cache, hcache, ?_⟩
    rw [hexec, if_neg hne]
    dsimp only
    rw [exec_onStmt_bind, exec_checkError]

theorem bind_eq (name : Bytes) (value : BindValue) :
    bind E name value = bindAs E value.operation name value.sqlValue := by
  cases value <;> rfl

theorem step_progress (stmt : Sqlite.Stmt) (w : World) :
    (Sqlite.step E stmt w).2.1.progress = .ofCode (Sqlite.step E stmt w).1 := by
  unfold Sqlite.step
  split <;> rfl

/-- The reset reports what the last step has reported. -/
theorem isError_reset {stmt : Sqlite.Stmt} {rc : Int} (h : stmt.progress = .ofCode rc) :
    isError (Sqlite.reset stmt).1 = isError rc := by
  unfold Sqlite.Progress.ofCode at h
  unfold Sqlite.reset
  split at h
  · next hrow =>
    rw [h, hrow]
    rfl
  · rw [h]
    dsimp only
    split
    · next hdone =>
      rw [hdone]
      rfl
    · rfl

theorem exec_execute (s : SqliteStatement) (w : World) :
    exec (execute E) (s, w) =
      let stepped := Sqlite.step E s.stmt w
      if isError stepped.1 then
        (.error (failure E "Execute statement" stepped.1 stepped.2.2),
          { s with stmt := stepped.2.1 }, stepped.2.2)
      else
        (.ok (E.changes stepped.2.2), { s with stmt := Sqlite.prepared }, stepped.2.2) := by
  have hreset := isError_reset (step_progress (E := E) s.stmt w)
  have hstep : exec (sqlite3Step E) (s, w) = (.ok (Sqlite.step E s.stmt w).1,
      { s with stmt := (Sqlite.step E s.stmt w).2.1 }, (Sqlite.step E s.stmt w).2.2) := rfl
  unfold execute
  rw [exec_bind, hstep]
  dsimp only
  rw [exec_checkError_bind]
  split
  · rfl
  · next hrc =>
    rw [exec_bind, exec_mk]
    dsimp only
    rw [exec_bind, exec_unsafeReset, hreset, if_neg hrc]
    rfl

/-- **The cache makes no difference.** -/
theorem call_eq {s : SqliteStatement} (h : Sound E s.paramIndexCache) (op : Op) (w : World) :
    ∃ cache, Sound E cache ∧ call E op (s, w) =
      ((plainCall E op s.stmt w).1,
        { stmt := (plainCall E op s.stmt w).2.1, paramIndexCache := cache },
        (plainCall E op s.stmt w).2.2) := by
  cases op with
  | execute =>
    refine ⟨s.paramIndexCache, h, ?_⟩
    unfold call plainCall plainExecute
    dsimp only
    rw [exec_execute]
    dsimp only
    split <;> rfl
  | reset =>
    refine ⟨s.paramIndexCache, h, ?_⟩
    unfold call plainCall plainReset reset
    dsimp only
    rw [exec_unsafeReset]
    split <;> rfl
  | bind name value =>
    obtain ⟨cache, hcache, hexec⟩ := exec_bindAs h value.operation name value.sqlValue w
    unfold call plainCall plainBind
    dsimp only
    rw [bind_eq, hexec]
    split
    · exact ⟨s.paramIndexCache, h, rfl⟩
    · refine ⟨cache, hcache, ?_⟩
      dsimp only
      split <;> rfl

/-! ## Sequences of calls -/

/-- The same statement on the same connection, whatever is in the caches. -/
def Alike (s t : SqliteStatement × World) : Prop :=
  s.1.stmt = t.1.stmt ∧ s.2 = t.2 ∧ Sound E s.1.paramIndexCache ∧ Sound E t.1.paramIndexCache

theorem alike_call (op : Op) (s t : SqliteStatement × World) (h : Alike (E := E) s t) :
    (call E op s).1 = (call E op t).1 ∧ Alike (E := E) (call E op s).2 (call E op t).2 := by
  obtain ⟨s, w⟩ := s
  obtain ⟨t, v⟩ := t
  obtain ⟨hstmt, hworld, hs, ht⟩ := h
  obtain ⟨cache, hcache, hcall⟩ := call_eq hs op w
  obtain ⟨cache', hcache', hcall'⟩ := call_eq ht op v
  dsimp only at hstmt hworld
  rw [hcall, hcall', hstmt, hworld]
  exact ⟨rfl, rfl, rfl, hcache, hcache'⟩

/-- What the calls tell: whether the last of the executions and resets was an execution that
failed. -/
def seesFailure (failed : Bool) : Op × Outcome → Bool
  | (.execute, .error _) => true
  | (.execute, .ok _) => false
  | (.reset, _) => false
  | (.bind _ _, _) => failed

def leftFailed (calls : List (Op × Outcome)) : Bool := calls.foldl seesFailure false

/-- A statement between two calls. -/
def Between (failed : Bool) (s : SqliteStatement × World) : Prop :=
  Sound E s.1.paramIndexCache ∧
    match failed with
    | true => ∃ rc, isError rc = true ∧ s.1.stmt.progress = .halted rc
    | false => s.1.stmt.progress = .ready

theorem between_prepareStatement (w : World) : Between (E := E) false (prepareStatement, w) :=
  ⟨sound_nil, rfl⟩

theorem progress_ofCode {rc : Int} (h : isError rc = true) :
    Sqlite.Progress.ofCode rc = .halted rc := by
  unfold Sqlite.Progress.ofCode
  rw [if_neg]
  rintro rfl
  cases h

/-- **One call.** -/
theorem between_call (failed : Bool) (op : Op) (s : SqliteStatement × World)
    (h : Between (E := E) failed s) :
    Between (E := E) (seesFailure failed (op, (call E op s).1)) (call E op s).2 := by
  obtain ⟨s, w⟩ := s
  obtain ⟨hsound, hprogress⟩ := h
  obtain ⟨cache, hcache, hcall⟩ := call_eq hsound op w
  rw [hcall]
  refine ⟨hcache, ?_⟩
  cases op with
  | execute =>
    dsimp only [plainCall]
    unfold plainExecute
    by_cases hrc : isError (Sqlite.step E s.stmt w).1 = true
    · dsimp only
      rw [if_pos hrc]
      exact ⟨_, hrc, (step_progress s.stmt w).trans (progress_ofCode hrc)⟩
    · dsimp only
      rw [if_neg hrc]
      rfl
  | reset =>
    dsimp only [plainCall, seesFailure]
    unfold plainReset
    dsimp only
    split
    · exact reset_progress s.stmt
    · rfl
  | bind name value =>
    have hsame : (plainBind E name value s.stmt w).2.1.progress = s.stmt.progress := by
      unfold plainBind
      dsimp only
      split
      · rfl
      · exact bind_progress s.stmt _ _
    dsimp only [seesFailure, plainCall] at hprogress ⊢
    rw [hsame]
    exact hprogress

variable (E) in
/-- As good as new after a reset, whatever others do on the connection in the meantime: it succeeds,
nothing is bound any more, and no sequence of calls makes a difference. -/
structure Reusable (s : SqliteStatement) : Prop where
  resets : ∀ w, (call E .reset (s, w)).1 = .ok none
  unbound : ∀ w, (call E .reset (s, w)).2.1.stmt.bindings = fun _ => .null
  like_new : ∀ w w' ops,
    trace (call E) ops ((call E .reset (s, w)).2.1, w') =
        trace (call E) ops (prepareStatement, w') ∧
      (after (call E) ops ((call E .reset (s, w)).2.1, w')).2 =
        (after (call E) ops (prepareStatement, w')).2

theorem reusable_of_ready {s : SqliteStatement} {w : World} (h : Between (E := E) false (s, w)) :
    Reusable E s := by
  obtain ⟨hsound, hready⟩ := h
  have hcall : ∀ w, ∃ cache, Sound E cache ∧ call E .reset (s, w) =
      (.ok none, { stmt := Sqlite.prepared, paramIndexCache := cache }, w) := by
    intro w
    obtain ⟨cache, hcache, hcall⟩ := call_eq hsound .reset w
    have hreset : Sqlite.reset s.stmt = (Sqlite.sqliteOk, { s.stmt with progress := .ready }) := by
      unfold Sqlite.reset
      rw [show s.stmt.progress = .ready from hready]
    have hplain : plainReset E s.stmt w = (.ok none, Sqlite.prepared, w) := by
      unfold plainReset
      rw [hreset]
      rfl
    dsimp only [plainCall] at hcall
    rw [hplain] at hcall
    exact ⟨cache, hcache, hcall⟩
  refine ⟨fun w => ?_, fun w => ?_, fun w w' ops => ?_⟩
  · obtain ⟨cache, -, hcall⟩ := hcall w
    rw [hcall]
  · obtain ⟨cache, -, hcall⟩ := hcall w
    rw [hcall]
    rfl
  · obtain ⟨cache, hcache, hcall⟩ := hcall w
    rw [hcall]
    have halike : Alike (E := E) ({ stmt := Sqlite.prepared, paramIndexCache := cache }, w')
        (prepareStatement, w') := ⟨rfl, rfl, hcache, sound_nil⟩
    obtain ⟨htrace, -, hworld, -⟩ := trace_congr alike_call halike ops
    exact ⟨htrace, hworld⟩

/-- The reset of a statement that has failed fails. -/
theorem not_reusable_of_failed {s : SqliteStatement} {w : World}
    (h : Between (E := E) true (s, w)) : ¬ Reusable E s := by
  obtain ⟨hsound, rc, hrc, hhalted⟩ := h
  intro hreusable
  have hresets := hreusable.resets w
  obtain ⟨cache, -, hcall⟩ := call_eq hsound .reset w
  have hreset : isError (Sqlite.reset s.stmt).1 = true := by
    rw [isError_reset (hhalted.trans (progress_ofCode hrc).symm), hrc]
  rw [hcall] at hresets
  dsimp only [plainCall, plainReset] at hresets
  rw [if_pos hreset] at hresets
  cases hresets

theorem between_after (ops : List Op) (w : World) :
    Between (E := E) (leftFailed (trace (call E) ops (prepareStatement, w)))
      (after (call E) ops (prepareStatement, w)) :=
  monitor between_call (between_prepareStatement w) ops

theorem not_reusable_of_leftFailed {ops : List Op} {w : World}
    (h : leftFailed (trace (call E) ops (prepareStatement, w)) = true) :
    ¬ Reusable E (after (call E) ops (prepareStatement, w)).1 := by
  have hbetween := between_after (E := E) ops w
  rw [h] at hbetween
  exact not_reusable_of_failed hbetween

variable (E) in
/-- **A statement can be used again exactly when it was not left by an execution that failed.** -/
theorem reusable_iff (ops : List Op) (w : World) :
    Reusable E (after (call E) ops (prepareStatement, w)).1 ↔
      leftFailed (trace (call E) ops (prepareStatement, w)) = false := by
  constructor
  · intro h
    by_contra hfailed
    rw [Bool.not_eq_false] at hfailed
    exact not_reusable_of_leftFailed hfailed h
  · intro h
    have hbetween := between_after (E := E) ops w
    rw [h] at hbetween
    exact reusable_of_ready hbetween

end

/-- `INSERT INTO t (name) VALUES (:name)`, where names are unique. -/
def insertUnique : Sqlite.Engine (List SqlValue) where
  parameterIndex name := if name = bytes ":name" then 1 else 0
  start bindings rows :=
    if bindings 1 ∈ rows then (19, rows) else (Sqlite.sqliteDone, rows ++ [bindings 1])
  next rows := (Sqlite.sqliteDone, rows)
  changes _ := 1
  errmsg _ rc := if rc = 19 then bytes "UNIQUE constraint failed: t.name" else bytes "bad parameter"

/-- The same name twice. -/
def insertTwice : List Op :=
  [.bind (bytes "name") (.string (bytes "a")), .execute,
    .bind (bytes "name") (.string (bytes "a")), .execute]

theorem not_reusable : ¬ ∀ ops rows,
    Reusable insertUnique (after (call insertUnique) ops (prepareStatement, rows)).1 := by
  intro h
  exact not_reusable_of_leftFailed (E := insertUnique) (by decide) (h insertTwice [])

end SqliteStatement

end Farado
