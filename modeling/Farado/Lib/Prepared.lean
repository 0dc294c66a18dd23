import Mathlib.Data.List.Nodup
import Mathlib.Data.List.TakeWhile

/-!
# Assembled UPDATE statements

A program that updates only the fields it is given assembles the text of the statement from
`column = :parameter` clauses, and binds a value to every parameter. The clauses and the bindings
are two chains of conditionals over the same fields, and nothing but care keeps them parallel.

`Agree` is what care has to achieve. It is put together chain by chain (`Agree.append`), and then the
parameters of the whole text are the bound names (`Agree.parameters_updateText`) and the statement
assigns what was meant (`Agree.assign`).
-/

namespace Prepared

variable {V C : Type}

def isNameChar (c : Char) : Bool := c.isAlphanum || c == '_'

/-- The parameters of an SQL text, in order: the names that follow a colon. -/
def parameters : List Char → List String
  | [] => []
  | c :: text =>
      if c == ':' then String.ofList (text.takeWhile isNameChar) :: parameters text
      else parameters text

def join (separator : String) : List String → String
  | [] => ""
  | [text] => text
  | text :: texts => text ++ separator ++ join separator texts

/-- `UPDATE table SET clause, … WHERE id = :id` -/
def updateText (table : String) (setClauses : List String) : String :=
  "UPDATE " ++ table ++ " SET " ++ join ", " setClauses ++ " WHERE id = :id"

/-- The column and the parameter of a clause `column = :parameter`. -/
def readClause (text : String) : Option (String × String) :=
  match text.toList.dropWhile isNameChar with
  | ' ' :: '=' :: ' ' :: ':' :: parameter =>
      if parameter.all isNameChar then
        some (String.ofList (text.toList.takeWhile isNameChar), String.ofList parameter)
      else none
  | _ => none

/-- What the SET clauses make of the columns `c`. A parameter stands for what is bound to it, or
for NULL. -/
def assign (setColumn : String → V → C → Option C) (null : V) (bindings : List (String × V)) :
    List String → C → Option C
  | [], c => some c
  | text :: texts, c => do
      let (column, parameter) ← readClause text
      let c ← setColumn column ((bindings.lookup parameter).getD null) c
      assign setColumn null bindings texts c

/-- The clauses and the bindings belong together, and assign what `set` does. -/
inductive Agree (setColumn : String → V → C → Option C) :
    List String → List (String × V) → (C → C) → Prop
  | nil : Agree setColumn [] [] id
  | cons {text column parameter : String} {value : V} {set f : C → C} {texts : List String}
      {bindings : List (String × V)} (hread : readClause text = some (column, parameter))
      (hset : ∀ c, setColumn column value c = some (set c)) (h : Agree setColumn texts bindings f) :
      Agree setColumn (text :: texts) ((parameter, value) :: bindings) fun c => f (set c)

/-! ## Parameters of the text -/

theorem not_isNameChar_colon : isNameChar ':' = false := rfl

theorem parameters_append {text : List Char} (h : ':' ∉ text) (rest : List Char) :
    parameters (text ++ rest) = parameters rest := by
  induction text with
  | nil => rfl
  | cons c text ih =>
    rw [List.mem_cons, not_or] at h
    obtain ⟨hc, htext⟩ := h
    rw [List.cons_append, parameters, if_neg (by simpa using Ne.symm hc), ih htext]

theorem colon_not_mem {name : List Char} (h : name.all isNameChar = true) : ':' ∉ name := by
  intro hmem
  have := List.all_eq_true.mp h ':' hmem
  rw [not_isNameChar_colon] at this
  cases this

/-- A parameter ends where the name does. -/
theorem parameters_colon {name rest : List Char} (hname : name.all isNameChar = true)
    (hrest : rest.takeWhile isNameChar = []) :
    parameters (':' :: (name ++ rest)) = String.ofList name :: parameters rest := by
  have htake : (name ++ rest).takeWhile isNameChar = name := by
    rw [List.takeWhile_append_of_pos (List.all_eq_true.mp hname), hrest, List.append_nil]
  rw [parameters, if_pos (beq_self_eq_true _), htake, parameters_append (colon_not_mem hname)]

/-- A clause has the one parameter that is read from it. -/
theorem parameters_clause {text column parameter : String}
    (hread : readClause text = some (column, parameter)) {rest : List Char}
    (hrest : rest.takeWhile isNameChar = []) :
    parameters (text.toList ++ rest) = parameter :: parameters rest := by
  unfold readClause at hread
  split at hread
  · next name hdrop =>
    split at hread
    · next hname =>
      cases hread
      have hcolumn : ':' ∉ text.toList.takeWhile isNameChar :=
        colon_not_mem (List.all_takeWhile)
      rw [← List.takeWhile_append_dropWhile (p := isNameChar) (l := text.toList), hdrop,
        List.append_assoc, parameters_append hcolumn]
      exact parameters_colon hname hrest
    · cases hread
  · cases hread

namespace Agree

variable {setColumn : String → V → C → Option C} {texts texts' : List String}
  {bindings bindings' : List (String × V)} {f f' : C → C}

theorem append (h : Agree setColumn texts bindings f) (h' : Agree setColumn texts' bindings' f') :
    Agree setColumn (texts ++ texts') (bindings ++ bindings') fun c => f' (f c) := by
  induction h with
  | nil => exact h'
  | @cons text column parameter value set f texts bindings hread hset _ ih =>
    exact .cons (f := fun c => f' (f c)) hread hset ih

/-- One clause, its parameter called like its column. -/
theorem single {text name : String} {value : V} {set : C → C}
    (hread : readClause text = some (name, name))
    (hset : ∀ c, setColumn name value c = some (set c)) :
    Agree setColumn [text] [(name, value)] set := .cons (f := id) hread hset .nil

/-- Two clauses that always come together. -/
theorem pair {text text' name name' : String} {value value' : V} {first second both : C → C}
    (hread : readClause text = some (name, name)) (hread' : readClause text' = some (name', name'))
    (hset : ∀ c, setColumn name value c = some (first c))
    (hset' : ∀ c, setColumn name' value' c = some (second c))
    (hboth : ∀ c, both c = second (first c)) :
    Agree setColumn [text, text'] [(name, value), (name', value')] both := by
  rw [funext hboth]
  exact .cons (f := second) hread hset (.single hread' hset')

theorem parameters_join (h : Agree setColumn texts bindings f) {rest : List Char}
    (hrest : rest.takeWhile isNameChar = []) :
    parameters ((join ", " texts).toList ++ rest) = bindings.map Prod.fst ++ parameters rest := by
  have hseparator : ':' ∉ ", ".toList := by decide
  induction h with
  | nil => rfl
  | @cons text column parameter value set f texts bindings hread _ h ih =>
    cases h with
    | nil => exact parameters_clause hread hrest
    | @cons text' column' parameter' value' set' f' texts' bindings' hread' _ _ =>
      rw [join, String.toList_append, String.toList_append, List.append_assoc, List.append_assoc,
        parameters_clause hread rfl, parameters_append hseparator, ih]
      · rfl
      · simp

/-- **The parameters of the text are the names that values are bound to.** -/
theorem parameters_updateText (h : Agree setColumn texts bindings f) {table : String}
    (htable : ':' ∉ table.toList) :
    parameters (updateText table texts).toList = bindings.map Prod.fst ++ ["id"] := by
  have hbegin : ':' ∉ ("UPDATE " ++ table ++ " SET ").toList := by
    simp only [String.toList_append, List.mem_append, not_or]
    exact ⟨⟨by decide, htable⟩, by decide⟩
  rw [updateText, String.toList_append, String.toList_append, List.append_assoc,
    parameters_append hbegin, h.parameters_join rfl]
  rfl

theorem lookup_of_mem {all : List (String × V)} (hnodup : (all.map Prod.fst).Nodup)
    {name : String} {value : V} (h : (name, value) ∈ all) : all.lookup name = some value := by
  induction all with
  | nil => cases h
  | cons entry all ih =>
    rw [List.map_cons, List.nodup_cons] at hnodup
    rcases List.mem_cons.mp h with rfl | h
    · simp
    · have hne : name ≠ entry.1 := fun heq => hnodup.1 (heq ▸ List.mem_map_of_mem h)
      rw [List.lookup_cons, beq_false_of_ne hne]
      exact ih hnodup.2 h

/-- **The statement assigns what was meant.** -/
theorem assign_eq (h : Agree setColumn texts bindings f) (null : V) {all : List (String × V)}
    (hsub : ∀ entry ∈ bindings, entry ∈ all) (hnodup : (all.map Prod.fst).Nodup) (c : C) :
    assign setColumn null all texts c = some (f c) := by
  induction h generalizing c with
  | nil => rfl
  | @cons text column parameter value set f texts bindings hread hset h ih =>
    obtain ⟨hmem, hsub⟩ := List.forall_mem_cons.mp hsub
    rw [assign, hread]
    simp only [Option.bind_eq_bind, Option.bind_some, lookup_of_mem hnodup hmem, Option.getD_some,
      hset]
    exact ih hsub (set c)

end Agree

end Prepared
