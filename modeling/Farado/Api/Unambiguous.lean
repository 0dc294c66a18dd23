import Farado.Api.Routes

/-!
# One route at most

The patterns of the routes are tried in order, but the order is of no consequence: no path matches
two of them with the same method. `apart` looks at two patterns byte by byte until they differ, and
one evaluation over the whole table does the rest.
-/

namespace Farado

/-! ## Patterns, byte by byte -/

inductive PathAtom where
  | byte (b : UInt8)
  | digits
  deriving DecidableEq, Repr

/-- A pattern without its grouping into literals. -/
def PathPart.atoms : PathPart → List PathAtom
  | .literal text => text.map .byte
  | .digits => [.digits]

def matchesAtoms : List PathAtom → Bytes → Bool
  | [], path => path.isEmpty
  | .byte _ :: _, [] => false
  | .byte b :: atoms, c :: path => b == c && matchesAtoms atoms path
  | .digits :: atoms, path =>
      !(path.takeWhile isDigit).isEmpty && matchesAtoms atoms (path.dropWhile isDigit)

theorem matchesAtoms_bytes (text : Bytes) (atoms : List PathAtom) (path : Bytes) :
    matchesAtoms (text.map .byte ++ atoms) path =
      (decide (path.take text.length = text) && matchesAtoms atoms (path.drop text.length)) := by
  induction text generalizing path with
  | nil => simp
  | cons b text ih =>
    cases path with
    | nil => simp [matchesAtoms]
    | cons c path =>
      by_cases hc : c = b
      · subst hc
        simp [matchesAtoms, ih]
      · simp [matchesAtoms, hc, Ne.symm hc]

theorem isSome_matchPath (parts : List PathPart) (path : Bytes) :
    (matchPath parts path).isSome = matchesAtoms (parts.flatMap PathPart.atoms) path := by
  induction parts generalizing path with
  | nil =>
    unfold matchPath
    split <;> simp_all [matchesAtoms]
  | cons part parts ih =>
    cases part with
    | literal text =>
      rw [List.flatMap_cons, PathPart.atoms, matchesAtoms_bytes, ← ih, matchPath]
      split
      · next h => simp [h]
      · next h => simp [h]
    | digits =>
      have hdrop : path.dropWhile isDigit = path.drop (path.takeWhile isDigit).length := by
        have happend := congrArg (List.drop (path.takeWhile isDigit).length)
          (List.takeWhile_append_dropWhile (p := isDigit) (l := path))
        rwa [List.drop_left] at happend
      rw [List.flatMap_cons, PathPart.atoms, List.singleton_append, matchesAtoms, hdrop, ← ih,
        matchPath]
      split
      · next h => simp [h]
      · next h => simp [h]

/-- The first difference between two patterns decides that no path matches both. -/
def apart : List PathAtom → List PathAtom → Bool
  | [], [] => false
  | [], _ :: _ => true
  | _ :: _, [] => true
  | .byte b :: p, .byte c :: q => b != c || apart p q
  | .byte b :: _, .digits :: _ => !isDigit b
  | .digits :: _, .byte c :: _ => !isDigit c
  | .digits :: p, .digits :: q => apart p q

theorem not_matchesAtoms_nil {a : PathAtom} {p : List PathAtom} :
    matchesAtoms (a :: p) [] = false := by
  cases a <;> simp [matchesAtoms]

/-- A group begins with a digit. -/
theorem isDigit_of_matchesAtoms_digits {c : UInt8} {p : List PathAtom} {path : Bytes}
    (h : matchesAtoms (.digits :: p) (c :: path) = true) : isDigit c = true := by
  by_contra hc
  simp [matchesAtoms, hc] at h

theorem apart_sound {p q : List PathAtom} (h : apart p q = true) (path : Bytes)
    (hp : matchesAtoms p path = true) : matchesAtoms q path = false := by
  induction p, q using apart.induct generalizing path with
  | case1 => cases h
  | case2 a q =>
    cases path with
    | nil => exact not_matchesAtoms_nil
    | cons => cases hp
  | case3 a p =>
    cases path with
    | nil => simp [not_matchesAtoms_nil] at hp
    | cons => rfl
  | case4 b p c q ih =>
    cases path with
    | nil => exact not_matchesAtoms_nil
    | cons d path =>
      simp only [matchesAtoms, Bool.and_eq_true, beq_iff_eq] at hp
      obtain ⟨rfl, hp⟩ := hp
      simp only [apart, Bool.or_eq_true, bne_iff_ne] at h
      by_cases hc : c = b
      · have hq := ih (h.resolve_left fun hne => hne hc.symm) path hp
        simp [matchesAtoms, hq]
      · simp [matchesAtoms, hc]
  | case5 b p q =>
    cases path with
    | nil => exact not_matchesAtoms_nil
    | cons d path =>
      simp only [matchesAtoms, Bool.and_eq_true, beq_iff_eq] at hp
      obtain ⟨rfl, -⟩ := hp
      by_contra hq
      have hdigit := isDigit_of_matchesAtoms_digits (Bool.not_eq_false _ ▸ hq)
      simp [apart, hdigit] at h
  | case6 p c q =>
    cases path with
    | nil => exact not_matchesAtoms_nil
    | cons d path =>
      have hdigit := isDigit_of_matchesAtoms_digits hp
      by_contra hq
      simp only [matchesAtoms, Bool.not_eq_false, Bool.and_eq_true, beq_iff_eq] at hq
      obtain ⟨rfl, -⟩ := hq
      simp [apart, hdigit] at h
  | case7 p q ih =>
    simp only [matchesAtoms, Bool.and_eq_true] at hp ⊢
    simp [ih h _ hp.2]

/-! ## Routes -/

/-- The test in the loop of `matchRoute`. -/
def RouteInfo.isMatch (route : RouteInfo) (method path : Bytes) : Bool :=
  route.method == method && (matchPath route.pathPattern path).isSome

/-- No request matches both. -/
def RouteInfo.Apart (route other : RouteInfo) : Prop :=
  ∀ method path, route.isMatch method path = true → other.isMatch method path = false

/-- Two routes that have different methods or different patterns. -/
def RouteInfo.differ (route other : RouteInfo) : Bool :=
  route.method != other.method ||
    apart (route.pathPattern.flatMap PathPart.atoms) (other.pathPattern.flatMap PathPart.atoms)

theorem RouteInfo.apart_of_differ {route other : RouteInfo} (h : route.differ other = true) :
    route.Apart other := by
  intro method path hmatch
  simp only [isMatch, Bool.and_eq_true, beq_iff_eq, isSome_matchPath] at hmatch ⊢
  obtain ⟨rfl, hpath⟩ := hmatch
  rcases Bool.or_eq_true_iff.mp h with hmethod | hpattern
  · have hne : (other.method == route.method) = false := by
      simpa using Ne.symm (bne_iff_ne.mp hmethod)
    simp [hne]
  · simp [apart_sound hpattern path hpath]

namespace RestServer

/-- A table in which no request matches two routes. -/
abbrev Unambiguous (routes : List RouteInfo) : Prop := routes.Pairwise RouteInfo.Apart

section
variable {routes : List RouteInfo} {method path : Bytes}

theorem matchRoute_eq_find :
    matchRoute routes method path = (routes.find? fun route => route.isMatch method path).bind
      fun route => (matchPath route.pathPattern path).map fun groups => (route, groups.head?) := by
  unfold matchRoute
  induction routes with
  | nil => rfl
  | cons route routes ih =>
    rw [List.findSome?_cons, List.find?_cons]
    by_cases hmethod : route.method = method
    · rw [if_pos hmethod]
      cases hpath : matchPath route.pathPattern path with
      | none => simp [RouteInfo.isMatch, hpath, ih]
      | some groups => simp [RouteInfo.isMatch, hmethod, hpath]
    · have hmatch : route.isMatch method path = false := by simp [RouteInfo.isMatch, hmethod]
      rw [if_neg hmethod, hmatch]
      exact ih

theorem Unambiguous.eq_of_isMatch (h : Unambiguous routes) {route other : RouteInfo}
    (hroute : route ∈ routes) (hother : other ∈ routes) (hmatch : route.isMatch method path = true)
    (hmatch' : other.isMatch method path = true) : route = other := by
  by_contra hne
  have hsymm : Std.Symm RouteInfo.Apart :=
    ⟨fun r r' hr method path hm => by
      by_contra hm'
      have := hr method path (by simpa using hm')
      simp [hm] at this⟩
  have hapart := h.forall hroute hother hne
  simp [hapart method path hmatch] at hmatch'

/-- One match at most. -/
theorem Unambiguous.length_filter_le_one (h : Unambiguous routes) (method path : Bytes) :
    (routes.filter fun route => route.isMatch method path).length ≤ 1 := by
  induction h with
  | nil => simp
  | @cons route routes hroute h ih =>
    rw [List.filter_cons]
    split
    · next hmatch =>
      have hnone : routes.filter (fun route => route.isMatch method path) = [] := by
        rw [List.filter_eq_nil_iff]
        intro other hother
        simp [hroute other hother method path hmatch]
      simp [hnone]
    · exact ih

/-- Then the order does not matter. -/
theorem Unambiguous.matchRoute_perm (h : Unambiguous routes) {routes' : List RouteInfo}
    (hperm : routes'.Perm routes) :
    matchRoute routes' method path = matchRoute routes method path := by
  rw [matchRoute_eq_find, matchRoute_eq_find]
  congr 1
  cases hfind : routes.find? fun route => route.isMatch method path with
  | none =>
    rw [List.find?_eq_none] at hfind ⊢
    exact fun route hroute => hfind route (hperm.mem_iff.mp hroute)
  | some route =>
    have hmem := List.mem_of_find?_eq_some hfind
    have hmatch := List.find?_some hfind
    cases hfind' : routes'.find? fun route => route.isMatch method path with
    | none =>
      rw [List.find?_eq_none] at hfind'
      exact absurd hmatch (hfind' route (hperm.mem_iff.mpr hmem))
    | some route' =>
      have hmem' := hperm.mem_iff.mp (List.mem_of_find?_eq_some hfind')
      have hmatch' : route'.isMatch method path = true := by
        simpa using List.find?_some hfind'
      rw [h.eq_of_isMatch hmem' hmem hmatch' hmatch]

theorem matchRoute_eq_some {route : RouteInfo} {id : Option Bytes}
    (h : matchRoute routes method path = some (route, id)) :
    route ∈ routes ∧ route.isMatch method path = true := by
  rw [matchRoute_eq_find, Option.bind_eq_some_iff] at h
  obtain ⟨found, hfind, h⟩ := h
  obtain ⟨groups, -, h⟩ := Option.map_eq_some_iff.mp h
  cases h
  exact ⟨List.mem_of_find?_eq_some hfind, by simpa using List.find?_some hfind⟩

end

/-! ## The table -/

theorem sublist_of_set {b : Bool} (l : List RouteInfo) : (if b then l else []).Sublist l := by
  cases b <;> simp

/-- Services that are not set leave routes out. -/
theorem registerRoutes_sublist (set : ServicesSet) :
    (registerRoutes set).Sublist (registerRoutes {}) := by
  unfold registerRoutes
  simp only [if_true]
  refine (((((((((((sublist_of_set _).append ?_).append ?_).append ?_).append ?_).append ?_).append
    ?_).append ?_).append ?_).append ?_).append ?_)
  all_goals first
    | exact sublist_of_set _
    | exact List.Sublist.refl _

theorem differ_registerRoutes :
    (registerRoutes {}).Pairwise fun route other => route.differ other = true := by
  decide +kernel

theorem unambiguous_registerRoutes (set : ServicesSet) : Unambiguous (registerRoutes set) :=
  (differ_registerRoutes.sublist (registerRoutes_sublist set)).imp RouteInfo.apart_of_differ

/-- What needs no token. -/
def publicHandlers : List RouteHandler := [.handleLogin, .handleLogout, .health]

theorem public_registerRoutes (set : ServicesSet) {route : RouteInfo}
    (hroute : route ∈ registerRoutes set) (hpublic : route.isPublic = true) :
    route.handler ∈ publicHandlers := by
  have hall : ∀ r ∈ registerRoutes {}, r.isPublic = true → r.handler ∈ publicHandlers := by
    decide +kernel
  exact hall route ((registerRoutes_sublist set).subset hroute) hpublic

/-! ## The gate -/

variable (jwt : Jwt) (clock : Nat → Int) (secretKey : Bytes)

/-- A handler is called for a route that matches, and past the check if the route is not public. -/
theorem handleRequest_call {routes : List RouteInfo} {hasMiddleware : Bool} {method path : Bytes}
    {authHeader : Option Bytes} {m : AuthMiddleware} {handler : RouteHandler} {userId : Bytes}
    (h : ((handleRequest jwt clock secretKey routes hasMiddleware method path authHeader).run m).1 =
      .call handler userId) :
    ∃ route ∈ routes, route.isMatch method path = true ∧ route.handler = handler ∧
      (route.isPublic = false → ∃ header, authHeader = some header ∧
        ((AuthMiddleware.validateRequest jwt clock secretKey header).run m).1 = some userId) := by
  cases hmatch : matchRoute routes method path with
  | none =>
    rw [run_handleRequest, hmatch] at h
    cases h
  | some found =>
    obtain ⟨route, id⟩ := found
    obtain ⟨hroute, hisMatch⟩ := matchRoute_eq_some hmatch
    cases hpublic : route.isPublic with
    | true =>
      rw [run_handleRequest, hmatch] at h
      dsimp only at h
      rw [if_pos hpublic] at h
      cases h
      exact ⟨route, hroute, hisMatch, rfl, by simp [hpublic]⟩
    | false =>
      obtain ⟨rfl, hvalid⟩ := handleRequest_protected hmatch hpublic h
      exact ⟨route, hroute, hisMatch, rfl, fun _ => hvalid⟩

/-- What the table of routes and the dispatch are to guarantee. -/
structure Guards (routes : List RouteInfo) : Prop where
  one_match : ∀ method path, (routes.filter fun route => route.isMatch method path).length ≤ 1
  any_order : ∀ routes', routes'.Perm routes → ∀ method path,
    matchRoute routes' method path = matchRoute routes method path
  gate : ∀ hasMiddleware method path authHeader m handler userId,
    ((handleRequest jwt clock secretKey routes hasMiddleware method path authHeader).run m).1 =
      .call handler userId →
    ∃ route ∈ routes, route.isMatch method path = true ∧ route.handler = handler ∧
      (route.isPublic = false → ∃ header, authHeader = some header ∧
        ((AuthMiddleware.validateRequest jwt clock secretKey header).run m).1 = some userId)
  without_token : ∀ hasMiddleware method path m handler userId,
    ((handleRequest jwt clock secretKey routes hasMiddleware method path none).run m).1 =
      .call handler userId → handler ∈ publicHandlers

/-- **One route at most, and no way around the check**, whichever services are set. -/
theorem guards_registerRoutes (set : ServicesSet) :
    Guards jwt clock secretKey (registerRoutes set) where
  one_match := (unambiguous_registerRoutes set).length_filter_le_one
  any_order routes' hperm method path := (unambiguous_registerRoutes set).matchRoute_perm hperm
  gate hasMiddleware method path authHeader m handler userId h :=
    handleRequest_call jwt clock secretKey h
  without_token hasMiddleware method path m handler userId h := by
    obtain ⟨route, hroute, -, rfl, hgate⟩ := handleRequest_call jwt clock secretKey h
    apply public_registerRoutes set hroute
    cases hpublic : route.isPublic with
    | true => rfl
    | false =>
      obtain ⟨header, hheader, -⟩ := hgate hpublic
      cases hheader

end RestServer

end Farado
