import Farado.Lib.Like
import Farado.Projects.SearchColumns
import Farado.Repositories.Paging

/-!
# Searching projects by caption

`findAll` looks for the lower-cased search text in the column that keeps the lower-cased captions.
It puts the text into a LIKE pattern as it is, so `%` and `_` in it are wildcards, and a search is a
search for the text only where it has none of them.
-/

namespace Farado

open Relational Steps

/-- What is documented of ICU's lower case, here `lower`, and of SQLite's LIKE on UTF-8 text:
lower case makes no NUL bytes and consists of characters that are lower case themselves; such
characters stay as they are in every text; the letter `a` is one and the ASCII capitals are not. -/
structure TextLaws (env : Environment) (lower : String → String) : Prop where
  foldCase_eq : ∀ t, env.foldCase (bytes t) = bytes (lower t)
  like_eq : ∀ pattern t, env.like (bytes pattern) (bytes t) = Like.like pattern.toList t.toList
  nulFree : ∀ text, 0 ∉ text → 0 ∉ env.foldCase text
  lowered : ∀ t, ∀ c ∈ (lower t).toList, lower (String.singleton c) = String.singleton c
  lower_eq : ∀ t, (∀ c ∈ t.toList, lower (String.singleton c) = String.singleton c) → lower t = t
  capital : ∀ c : Char, c.isUpper = true → lower (String.singleton c) ≠ String.singleton c
  letter : lower (String.singleton 'a') = String.singleton 'a'

/-- UTF-8 without NUL. -/
def IsText (b : Bytes) : Prop := ∃ t : String, b = bytes t ∧ 0 ∉ b

/-- The captions that are given to projects are UTF-8 without NUL. -/
def TextWrite.CaptionIsText : TextWrite → Prop
  | createProject _ project => ∀ caption, project.caption = some caption → IsText caption
  | updateProject _ project => ∀ caption, project.caption = some caption → IsText caption
  | _ => True

/-- The lower-cased caption contains the lower-cased text, literally. -/
def Contains (lower : String → String) (s : String) (row : Row .project) : Prop :=
  ∃ caption, row.cols.caption = bytes caption ∧ (lower s).toList <:+: (lower caption).toList

/-- A search for `s` on one page counts and returns exactly the projects that contain it. -/
def SearchExact (env : Environment) (lower : String → String) (s : String) (pageSize : Int)
    (c : Connection) : Prop :=
  ∃ (rows : List (Row .project)) (items : List Dto.Project), rows.Nodup ∧
    (∀ row, row ∈ rows ↔ row ∈ c.db.rows .project ∧ Contains lower s row) ∧
    rows.mapM projectReader.mapRow = .ok items ∧
    (SqliteProjectRepository.findAll env 1 pageSize none none (bytes s)).run c =
      (.ok (items, (rows.length : Int)), c)

/-! ## Captions -/

theorem bindString_of_isText {b : Bytes} (h : IsText b) : bindString b = b := by
  obtain ⟨t, -, hnul⟩ := h
  exact cString_eq_self_iff.mpr hnul

theorem TextWrite.exec_captions {env : Environment} {c : Connection} {write : TextWrite}
    (hwrite : write.CaptionIsText) (h : ∀ row ∈ c.db.rows .project, IsText row.cols.caption) :
    ∀ row ∈ (write.exec env c).db.rows .project, IsText row.cols.caption := by
  refine write.exec_keeps_projects (P := fun row => IsText row.caption) ?create ?update ?archive h
  case create =>
    rintro now project v rfl hv
    simp only [SqliteProjectRepository.values, Option.bind_eq_bind, Option.bind_eq_some_iff] at hv
    obtain ⟨caption, hcaption, _, -, hv⟩ := hv
    cases hv
    have htext := hwrite caption hcaption
    exact (bindString_of_isText htext).symm ▸ htext
  case update =>
    rintro now project rfl set hset row hrow
    simp only [SqliteProjectRepository.setClauses, List.mem_append, List.mem_singleton,
      mem_setIfPresent] at hset
    rcases hset with (((⟨v, -, rfl⟩ | ⟨v, hv, rfl⟩) | ⟨v, -, rfl⟩) | ⟨v, -, rfl⟩) | rfl
    · exact hrow
    · have htext := hwrite v hv
      exact (bindString_of_isText htext).symm ▸ htext
    · exact hrow
    · exact hrow
    · exact hrow
  case archive => exact fun row isArchive updatedAt hrow => hrow

theorem foldl_exec_captions {env : Environment} {c : Connection} {writes : List TextWrite}
    (hwrites : ∀ write ∈ writes, write.CaptionIsText)
    (h : ∀ row ∈ c.db.rows .project, IsText row.cols.caption) :
    ∀ row ∈ (writes.foldl (TextWrite.exec env) c).db.rows .project, IsText row.cols.caption := by
  induction writes generalizing c with
  | nil => exact h
  | cons write writes ih =>
    obtain ⟨hwrite, hwrites⟩ := List.forall_mem_cons.mp hwrites
    exact ih hwrites (TextWrite.exec_captions hwrite h)

/-! ## What the WHERE clause matches -/

theorem toLower_of_not_isUpper {c : Char} (h : c.isUpper = false) : c.toLower = c := by
  unfold Char.toLower
  split
  · next hrange => exact absurd hrange (of_decide_eq_false h)
  · rfl

theorem bytes_eq_nil_iff {t : String} : bytes t = [] ↔ t = "" := by
  constructor
  · intro h
    apply bytes_injective
    rw [h]
    rfl
  · rintro rfl
    rfl

section
variable {env : Environment} {lower : String → String} (laws : TextLaws env lower) {s : String}
  (hs : s ≠ "") (hnul : 0 ∉ bytes s)

include laws

theorem toLowerCase_bytes {t : String} (h : 0 ∉ bytes t) :
    toLowerCase env (bytes t) = bytes (lower t) := by
  rw [toLowerCase, cString_eq_self_iff.mpr h, laws.foldCase_eq]

theorem zero_not_mem_bytes_lower {t : String} (h : 0 ∉ bytes t) : 0 ∉ bytes (lower t) := by
  rw [← laws.foldCase_eq]
  exact laws.nulFree _ h

theorem map_toLower_lower (t : String) : (lower t).toList.map Char.toLower = (lower t).toList := by
  conv_rhs => rw [← List.map_id (lower t).toList]
  apply List.map_congr_left
  intro c hc
  apply toLower_of_not_isUpper
  apply Bool.eq_false_iff.mpr
  intro hupper
  exact laws.capital c hupper (laws.lowered t c hc)

include hs hnul

/-- What `findAll` hands to LIKE for a search, and what it gets back. -/
theorem filter_search (row : Row .project) {caption : String}
    (hcaption : row.cols.caption = bytes caption) (htext : 0 ∉ bytes caption)
    (hmirrors : row.cols.Mirrors env) :
    SqliteProjectRepository.filter env none none (bytes s) row =
      Like.like (Like.containing (lower s).toList) (lower caption).toList := by
  have hpattern : containsPattern (toLowerCase env (bytes s)) = bytes ("%" ++ lower s ++ "%") := by
    rw [toLowerCase_bytes laws hnul, containsPattern, bytes_append, bytes_append, bindString,
      cString_eq_self_iff.mpr (zero_not_mem_bytes_lower laws hnul)]
  have hcolumn : row.cols.searchCaption = some (bytes (lower caption)) := by
    rw [hmirrors.caption, hcaption, toLowerCase_bytes laws htext]
  have hne : (bytes s).isEmpty = false := by
    rw [List.isEmpty_eq_false_iff]
    exact fun h => hs (bytes_eq_nil_iff.mp h)
  unfold SqliteProjectRepository.filter
  rw [hpattern, hcolumn, hne, Option.any_some, laws.like_eq]
  simp [Like.containing]

theorem filter_search_iff (hwild : Like.WildcardFree (lower s).toList) {row : Row .project}
    (htext : IsText row.cols.caption) (hmirrors : row.cols.Mirrors env) :
    SqliteProjectRepository.filter env none none (bytes s) row = true ↔ Contains lower s row := by
  obtain ⟨caption, hcaption, hfree⟩ := htext
  rw [hcaption] at hfree
  rw [filter_search laws hs hnul row hcaption hfree hmirrors, Like.like_contains hwild,
    map_toLower_lower laws, map_toLower_lower laws]
  constructor
  · intro h
    exact ⟨caption, hcaption, h⟩
  · rintro ⟨caption', hcaption', h⟩
    rw [hcaption] at hcaption'
    rwa [bytes_injective hcaption']

end

/-! ## The search -/

section
variable {env : Environment} {lower : String → String} (laws : TextLaws env lower) {s : String}
  (hs : s ≠ "") (hnul : 0 ∉ bytes s) {c : Connection}

/-- The rows a search finds. -/
def found (env : Environment) (s : String) (db : Database V1) : List (Row .project) :=
  (db.rows .project).filter (SqliteProjectRepository.filter env none none (bytes s))

/-- Without projects nothing is found, on a page of whatever size. -/
theorem result_findAll_of_no_projects {pageSize : Int} (hnone : c.db.rows .project = []) :
    (SqliteProjectRepository.findAll env 1 pageSize none none (bytes s)).result c =
      .ok ([], 0) := by
  have hcount : (select fun db => .ok ((db.rows .project).filter
      (SqliteProjectRepository.filter env none none (bytes s))).length : Db Int).run c =
        (.ok 0, c) := by
    rw [(readOnly_select _).run_eq, result_select, hnone]
    rfl
  rw [Prog.result, SqliteProjectRepository.findAll, findAllIn, Prog.run_bind_ok hcount]
  rfl

/-- One page for all matching rows lists them all, if it can read them. -/
theorem result_search {pageSize : Int} (hsize : ((c.db.rows .project).length : Int) ≤ pageSize)
    {items : List Dto.Project} {total : Int} :
    (SqliteProjectRepository.findAll env 1 pageSize none none (bytes s)).result c =
        .ok (items, total) ↔
      (env.arrange byId (found env s c.db)).mapM projectReader.mapRow =
        .ok items ∧ total = (found env s c.db).length := by
  have hmatching : ((found env s c.db).length : Int) ≤
      (c.db.rows .project).length := by
    have := List.length_filter_le (SqliteProjectRepository.filter env none none (bytes s))
      (c.db.rows .project)
    exact Int.ofNat_le.mpr this
  by_cases hpos : 1 ≤ pageSize
  · have hpage : Paging.page pageSize.toNat
        (env.arrange byId (found env s c.db)) (1 - 1 : Int).toNat =
          env.arrange byId (found env s c.db) := by
      have hlength := (env.arrange_perm byId (found env s c.db)).length_eq
      unfold Paging.page
      rw [Int.sub_self, Int.toNat_zero, Nat.zero_mul, List.drop_zero,
        List.take_of_length_le (by omega)]
    rw [← hpage]
    exact ListRequest.result_findAll (q := .projects none none (bytes s)) (Int.le_refl 1) hpos
      (by simp)
  · -- then there is no project at all
    have hnone : c.db.rows .project = [] := List.eq_nil_of_length_eq_zero (by omega)
    have hfound : found env s c.db = [] := by
      rw [found, hnone]
      rfl
    have harrange : env.arrange (byId : Row .project → Row .project → Bool) [] = [] :=
      (env.arrange_perm byId []).eq_nil
    rw [result_findAll_of_no_projects hnone, hfound, harrange]
    constructor
    · intro h
      cases h
      exact ⟨rfl, rfl⟩
    · rintro ⟨h, rfl⟩
      cases h
      rfl

include laws hs hnul

/-- Without a wildcard the search finds what it should, wherever it can read what it finds. -/
theorem searchExact_of_wildcardFree (hwild : Like.WildcardFree (lower s).toList) {pageSize : Int}
    (hsize : ((c.db.rows .project).length : Int) ≤ pageSize)
    (htexts : ∀ row ∈ c.db.rows .project, IsText row.cols.caption)
    (hmirrors : ∀ row ∈ c.db.rows .project, row.cols.Mirrors env) :
    SearchExact env lower s pageSize c ↔
      ∀ row ∈ c.db.rows .project, Contains lower s row → projectReader.Readable row := by
  have hmatch : ∀ row, row ∈ env.arrange byId (found env s c.db) ↔
      row ∈ c.db.rows .project ∧ Contains lower s row := by
    intro row
    rw [(env.arrange_perm _ _).mem_iff, found, List.mem_filter]
    refine and_congr_right fun hrow => ?_
    exact filter_search_iff laws hs hnul hwild (htexts row hrow) (hmirrors row hrow)
  constructor
  · rintro ⟨rows, items, -, hrows, hread, -⟩ row hrow hcontains
    exact (projectReader.mapM_ok_iff.mp hread).1 row ((hrows row).mpr ⟨hrow, hcontains⟩)
  · intro hreadable
    have hread := projectReader.mapM_ok_iff.mpr ⟨fun row hrow =>
      hreadable row ((hmatch row).mp hrow).1 ((hmatch row).mp hrow).2, rfl⟩
    refine ⟨_, _, ?_, hmatch, hread, ?_⟩
    · rw [(env.arrange_perm _ _).nodup_iff]
      exact ((c.db.integral.ids_nodup .project).of_map).filter _
    · have hreadOnly := ListRequest.readOnly_findAll env (.projects none none (bytes s)) 1 pageSize
      have hresult : (SqliteProjectRepository.findAll env 1 pageSize none none (bytes s)).result c =
          _ := (result_search hsize).mpr ⟨hread, rfl⟩
      rw [← (env.arrange_perm byId _).length_eq] at hresult
      exact (hreadOnly.run_eq c).trans (Prod.ext hresult rfl)

end

/-! ## A search with a wildcard -/

theorem bytes_ofList (l : List Char) : bytes (String.ofList l) = l.flatMap String.utf8EncodeChar := by
  rw [bytes, String.toByteArray_ofList, List.utf8Encode, List.data_toByteArray, List.toList_toArray]

/-- The letters that stand for the wildcards are no NUL bytes. -/
theorem zero_not_mem_bytes_fill {t : String} (h : 0 ∉ bytes t) :
    0 ∉ bytes (String.ofList (Like.fill t.toList)) := by
  rw [← String.ofList_toList (s := t), bytes_ofList] at h
  rw [bytes_ofList]
  simp only [Like.fill, List.mem_flatMap, List.mem_map, not_exists, not_and] at h ⊢
  rintro _ ⟨c, hc, rfl⟩
  split
  · decide
  · exact h c hc

/-- The creation of a project with a caption and nothing else. -/
def createCaptioned (caption : String) : TextWrite :=
  .createProject 0 { caption := some (bytes caption) }

theorem rows_firstProject (env : Environment) (caption : String) (hne : caption ≠ "")
    (hnul : 0 ∉ bytes caption) : ∃ v : ProjectRow, v.caption = bytes caption ∧
      ([createCaptioned caption].foldl (TextWrite.exec env) Connection.fresh).db.rows .project =
        [⟨1, v⟩] := by
  have hguard : (bytes caption).isEmpty = false := by
    rw [List.isEmpty_eq_false_iff]
    exact fun h => hne (bytes_eq_nil_iff.mp h)
  have hvalues : ∃ v : ProjectRow, v.caption = bytes caption ∧ v.parentId = none ∧
      SqliteProjectRepository.values env 0 { caption := some (bytes caption) } = some v := by
    simp only [SqliteProjectRepository.values, Option.bind_eq_bind, Option.bind_some, hguard,
      Bool.not_false, guard_true]
    exact ⟨_, cString_eq_self_iff.mpr hnul, rfl, rfl⟩
  obtain ⟨v, hcaption, hparent, hv⟩ := hvalues
  refine ⟨v, hcaption, ?_⟩
  -- a root project: no reference has to be looked up
  obtain ⟨parentId, _, _, _, _, _, _, _⟩ := v
  subst hparent
  show ((createIn .project (SqliteProjectRepository.values env 0 _)).after _).db.rows .project = _
  rw [hv]
  rfl

/-- A search with a wildcard finds a caption that has letters where the text has wildcards. -/
theorem filter_search_fill {env : Environment} {lower : String → String}
    (laws : TextLaws env lower) {s : String} (hs : s ≠ "") (hnul : 0 ∉ bytes s)
    (hwild : ¬ Like.WildcardFree (lower s).toList) {v : ProjectRow}
    (hv : v.caption = bytes (String.ofList (Like.fill (lower s).toList)))
    (hmirrors : v.Mirrors env) :
    SqliteProjectRepository.filter env none none (bytes s) ⟨1, v⟩ = true ∧
      ¬ Contains lower s ⟨1, v⟩ := by
  have hnulFill := zero_not_mem_bytes_fill (zero_not_mem_bytes_lower laws hnul)
  have hlower : lower (String.ofList (Like.fill (lower s).toList)) =
      String.ofList (Like.fill (lower s).toList) := by
    apply laws.lower_eq
    intro c hc
    rw [String.toList_ofList, Like.fill, List.mem_map] at hc
    obtain ⟨d, hd, rfl⟩ := hc
    split
    · exact laws.letter
    · exact laws.lowered s d hd
  constructor
  · rw [filter_search laws hs hnul ⟨1, v⟩ hv hnulFill hmirrors, hlower,
      String.toList_ofList]
    exact Like.like_fill _
  · rintro ⟨caption, hcaption, hinfix⟩
    obtain rfl := bytes_injective (hv.symm.trans hcaption)
    rw [hlower, String.toList_ofList] at hinfix
    exact Like.not_infix_fill hwild hinfix

/-- A search that finds a project that does not contain the text counts one too many. -/
theorem not_searchExact {env : Environment} {lower : String → String} {s : String} {c : Connection}
    {v : ProjectRow} (hrows : c.db.rows .project = [⟨1, v⟩])
    (hfilter : SqliteProjectRepository.filter env none none (bytes s) ⟨1, v⟩ = true)
    (hcontains : ¬ Contains lower s ⟨1, v⟩) {pageSize : Int} (hsize : 1 ≤ pageSize) :
    ¬ SearchExact env lower s pageSize c := by
  rintro ⟨rows, items, -, hmem, -, hrun⟩
  have hnone : rows = [] := by
    apply List.eq_nil_iff_forall_not_mem.mpr
    intro row hrow
    obtain ⟨hrow, hrowContains⟩ := (hmem row).mp hrow
    rw [hrows, List.mem_singleton] at hrow
    exact hcontains (hrow ▸ hrowContains)
  have hlength : ((c.db.rows .project).length : Int) ≤ pageSize := by simpa [hrows] using hsize
  have htotal := ((result_search hlength).mp (congrArg Prod.fst hrun)).2
  rw [found, hrows, List.filter_cons_of_pos hfilter, hnone] at htotal
  simp at htotal

/-- **A search for a text is exact on every store, as far as what it finds can be read, if and only
if** the lower-cased text has no `%` and no `_`. -/
theorem project_search_iff (env : Environment) (lower : String → String) (laws : TextLaws env lower)
    (s : String) (hs : s ≠ "") (hnul : 0 ∉ bytes s) :
    (∀ (start : Connection) (writes : List TextWrite) (pageSize : Int),
      start.db.rows .project = [] → start.db.rows .phase = [] →
      (∀ write ∈ writes, write.CaptionIsText) →
      (((writes.foldl (TextWrite.exec env) start).db.rows .project).length : Int) ≤ pageSize →
      (SearchExact env lower s pageSize (writes.foldl (TextWrite.exec env) start) ↔
        ∀ row ∈ (writes.foldl (TextWrite.exec env) start).db.rows .project,
          Contains lower s row → projectReader.Readable row)) ↔
      Like.WildcardFree (lower s).toList := by
  constructor
  · intro h
    by_contra hwild
    have hne : String.ofList (Like.fill (lower s).toList) ≠ "" := by
      intro hempty
      have hnil : (lower s).toList = [] := by simpa [Like.fill] using hempty
      rw [hnil] at hwild
      exact hwild (by decide)
    have hnulFill := zero_not_mem_bytes_fill (zero_not_mem_bytes_lower laws hnul)
    obtain ⟨v, hv, hrows⟩ := rows_firstProject env _ hne hnulFill
    have hmirrors : v.Mirrors env := by
      have hall := foldl_exec_mirrors (c := Connection.fresh) laws.nulFree
        [createCaptioned (String.ofList (Like.fill (lower s).toList))]
        (searchColumnsMirror_of_nil rfl rfl)
      exact hall.projects ⟨1, v⟩ (hrows ▸ List.mem_singleton_self _)
    have htexts : ∀ write ∈ [createCaptioned (String.ofList (Like.fill (lower s).toList))],
        write.CaptionIsText := by
      intro write hwrite
      rw [List.mem_singleton.mp hwrite]
      rintro _ ⟨⟩
      exact ⟨_, rfl, hnulFill⟩
    have hexact := h Connection.fresh _ 1 rfl rfl htexts (by rw [hrows]; simp)
    obtain ⟨hfilter, hcontains⟩ := filter_search_fill laws hs hnul hwild hv hmirrors
    refine not_searchExact hrows hfilter hcontains Int.le_rfl (hexact.mpr ?_)
    intro row hrow hrowContains
    rw [hrows, List.mem_singleton] at hrow
    exact absurd (hrow ▸ hrowContains) hcontains
  · intro hwild start writes pageSize hprojects hphases hwrites hsize
    refine searchExact_of_wildcardFree laws hs hnul hwild hsize ?_ ?_
    · exact foldl_exec_captions hwrites (by simp [hprojects])
    · exact (foldl_exec_mirrors laws.nulFree writes
        (searchColumnsMirror_of_nil hprojects hphases)).projects

/-! ## Where the laws hold -/

/-- The text that is encoded, if it is UTF-8. -/
def decodeUtf8 (b : Bytes) : Option String :=
  (ByteArray.mk b.toArray).utf8Decode?.map fun chars => String.ofList chars.toList

theorem decodeUtf8_bytes (t : String) : decodeUtf8 (bytes t) = some t := by
  have harray : ByteArray.mk (bytes t).toArray = t.toList.utf8Encode := by
    rw [String.utf8Encode_toList]
    rfl
  rw [decodeUtf8, harray, List.utf8Decode?_utf8Encode]
  simp

theorem bytes_of_decodeUtf8 {b : Bytes} {t : String} (h : decodeUtf8 b = some t) : bytes t = b := by
  obtain ⟨chars, hchars, rfl⟩ := Option.map_eq_some_iff.mp h
  have hencode : chars.toList.utf8Encode = ByteArray.mk b.toArray := by
    have hget := ByteArray.utf8Encode_get_utf8Decode? (b := ByteArray.mk b.toArray)
      (h := Option.isSome_iff_exists.mpr ⟨chars, hchars⟩)
    rwa [Option.get_of_mem _ hchars] at hget
  rw [bytes, String.toByteArray_ofList, hencode]

/-- Lower case for ASCII letters. -/
def lowerAscii (t : String) : String := String.ofList (t.toList.map Char.toLower)

/-- ASCII lower case and LIKE on UTF-8 texts. -/
def Environment.utf8 : Environment where
  arrange := Environment.reference.arrange
  arrange_perm := Environment.reference.arrange_perm
  arrange_sorted := Environment.reference.arrange_sorted
  like pattern text :=
    Like.like ((decodeUtf8 pattern).getD "").toList ((decodeUtf8 text).getD "").toList
  foldCase text := (decodeUtf8 text).elim text fun t => bytes (lowerAscii t)

theorem toLower_of_isUpper {c : Char} (h : c.isUpper = true) :
    c.toLower.isUpper = false ∧ c.toLower ≠ c ∧ 0 ∉ String.utf8EncodeChar c.toLower := by
  have hletters : ∀ n, n < 26 → (Char.ofNat (65 + n)).toLower.isUpper = false ∧
      (Char.ofNat (65 + n)).toLower ≠ Char.ofNat (65 + n) ∧
        0 ∉ String.utf8EncodeChar (Char.ofNat (65 + n)).toLower := by decide
  have hcase : 'A'.val ≤ c.val ∧ c.val ≤ 'Z'.val := of_decide_eq_true h
  have hrange : 65 ≤ c.toNat ∧ c.toNat ≤ 90 :=
    ⟨UInt32.le_iff_toNat_le.mp hcase.1, UInt32.le_iff_toNat_le.mp hcase.2⟩
  have hc : Char.ofNat (65 + (c.toNat - 65)) = c := by
    rw [Nat.add_sub_cancel' hrange.1, Char.ofNat_toNat]
  rw [← hc]
  exact hletters _ (by omega)

theorem zero_not_mem_bytes_lowerAscii {t : String} (h : 0 ∉ bytes t) :
    0 ∉ bytes (lowerAscii t) := by
  rw [← String.ofList_toList (s := t), bytes_ofList] at h
  rw [lowerAscii, bytes_ofList]
  simp only [List.mem_flatMap, List.mem_map, not_exists, not_and] at h ⊢
  rintro _ ⟨c, hc, rfl⟩
  cases hupper : c.isUpper with
  | true => exact (toLower_of_isUpper hupper).2.2
  | false =>
    rw [toLower_of_not_isUpper hupper]
    exact h c hc

theorem lowerAscii_singleton (c : Char) :
    lowerAscii (String.singleton c) = String.singleton c ↔ c.isUpper = false := by
  have hsame : lowerAscii (String.singleton c) = String.singleton c ↔ c.toLower = c := by
    simp [lowerAscii, ← String.toList_inj]
  rw [hsame]
  constructor
  · intro h
    apply Bool.eq_false_iff.mpr
    exact fun hupper => (toLower_of_isUpper hupper).2.1 h
  · exact toLower_of_not_isUpper

/-- ASCII keeps the laws. -/
theorem textLaws_utf8 : TextLaws Environment.utf8 lowerAscii where
  foldCase_eq t := by
    show (decodeUtf8 (bytes t)).elim (bytes t) (fun t => bytes (lowerAscii t)) = _
    rw [decodeUtf8_bytes, Option.elim_some]
  like_eq pattern t := by
    show Like.like ((decodeUtf8 (bytes pattern)).getD "").toList
      ((decodeUtf8 (bytes t)).getD "").toList = _
    rw [decodeUtf8_bytes, decodeUtf8_bytes, Option.getD_some, Option.getD_some]
  nulFree text h := by
    show 0 ∉ (decodeUtf8 text).elim text fun t => bytes (lowerAscii t)
    cases hdecode : decodeUtf8 text with
    | none => exact h
    | some t =>
      rw [← bytes_of_decodeUtf8 hdecode] at h
      exact zero_not_mem_bytes_lowerAscii h
  lowered t c hc := by
    rw [lowerAscii, String.toList_ofList, List.mem_map] at hc
    obtain ⟨d, -, rfl⟩ := hc
    rw [lowerAscii_singleton]
    cases hupper : d.isUpper with
    | true => exact (toLower_of_isUpper hupper).1
    | false => rwa [toLower_of_not_isUpper hupper]
  lower_eq t h := by
    have hmap : t.toList.map Char.toLower = t.toList := by
      conv_rhs => rw [← List.map_id t.toList]
      apply List.map_congr_left
      intro c hc
      exact toLower_of_not_isUpper ((lowerAscii_singleton c).mp (h c hc))
    rw [lowerAscii, hmap, String.ofList_toList]
  capital c hupper h := by
    rw [(lowerAscii_singleton c).mp h] at hupper
    cases hupper
  letter := by decide

theorem project_search_iff_sale :
    SearchExact Environment.utf8 lowerAscii "SALE" 20
        ([createCaptioned "Sales"].foldl (TextWrite.exec Environment.utf8) Connection.fresh) ↔
      ∀ row ∈ ([createCaptioned "Sales"].foldl (TextWrite.exec Environment.utf8)
        Connection.fresh).db.rows .project,
          Contains lowerAscii "SALE" row → projectReader.Readable row := by
  refine (project_search_iff Environment.utf8 lowerAscii textLaws_utf8 "SALE" (by decide)
    (by decide)).mpr (by decide) Connection.fresh _ 20 rfl rfl ?_ ?_
  · rintro write hwrite
    rw [List.mem_singleton.mp hwrite]
    rintro _ ⟨⟩
    exact ⟨"Sales", rfl, by decide⟩
  · obtain ⟨v, -, hrows⟩ := rows_firstProject Environment.utf8 "Sales" (by decide)
      (by decide)
    rw [hrows]
    simp

/-- A search for `100%` also finds the project `1000 days`. -/
theorem project_search_not_exact : ¬ ∀ (env : Environment) (lower : String → String)
    (s : String) (writes : List TextWrite), TextLaws env lower → s ≠ "" → 0 ∉ bytes s →
      (∀ write ∈ writes, write.CaptionIsText) →
        SearchExact env lower s 20 (writes.foldl (TextWrite.exec env) Connection.fresh) := by
  intro h
  obtain ⟨v, hv, hrows⟩ := rows_firstProject Environment.utf8 "1000 days" (by decide)
    (by decide)
  have hexact := h Environment.utf8 lowerAscii "100%" [createCaptioned "1000 days"] textLaws_utf8
    (by decide) (by decide) (List.forall_mem_singleton.mpr (by
      rintro _ ⟨⟩
      exact ⟨"1000 days", rfl, by decide⟩))
  have hmirrors : v.Mirrors Environment.utf8 :=
    (foldl_exec_mirrors (c := Connection.fresh) textLaws_utf8.nulFree
      [createCaptioned "1000 days"] (searchColumnsMirror_of_nil rfl rfl)).projects ⟨1, v⟩
        (hrows ▸ List.mem_singleton_self _)
  refine not_searchExact hrows ?_ ?_ (by decide) hexact
  · rw [filter_search textLaws_utf8 (by decide) (by decide) ⟨1, v⟩ hv (by decide) hmirrors]
    decide
  · rintro ⟨caption, hcaption, hinfix⟩
    obtain rfl := bytes_injective (hv.symm.trans hcaption)
    exact absurd hinfix (by decide)

end Farado
