import AttributeRules.FileSystem

/-! What a path leads to after directories were made and a file was written.

A file that was written is what its path leads to (`find_write`). Making directories takes nothing away that was there
(`find_makeParents`). Where the directories above a path cannot be made, or the file cannot be written, the path
leads to no file. -/

namespace AttributeRules

/-! ### Paths from their parts -/

namespace Path

theorem parts_append_slash (p q : Path) : parts (p ++ "/" ++ q) = parts p ++ parts q := by
  rw [parts, String.toList_append, String.toList_append, List.append_assoc]
  show (List.splitOn '/' (p.toList ++ '/' :: q.toList)).map _ = _
  rw [List.splitOn_append_cons_self, List.map_append]
  rfl

theorem names_append_slash (p q : Path) : names (p ++ "/" ++ q) = names p ++ names q := by
  rw [names, parts_append_slash, List.filter_append]
  rfl

theorem start_append {p : Path} (h : p ≠ "") (q : Path) : start (p ++ q) = start p := by
  have hne : p.toList ≠ [] := fun hnil => h (String.toList_eq_nil_iff.mp hnil)
  rw [start, start, String.toList_append, List.head?_append, List.head?_eq_some_head hne, Option.some_or]

theorem fault?_of_append {p q : Path} (h : p ≠ "") (hq : fault? (p ++ q) = none) : fault? p = none := by
  unfold fault? at hq ⊢
  split at hq
  · cases hq
  · rename_i hnul
    rw [String.toList_append, List.contains_append, Bool.or_eq_true, not_or] at hnul
    split at hq
    · cases hq
    · split at hq
      · cases hq
      · rename_i hlength
        rw [String.utf8ByteSize_append] at hlength
        rw [if_neg hnul.1, if_neg h, if_neg (by omega)]

theorem ofParts_parts (p : Path) : ofParts p.parts = p := by
  refine String.toList_injective ?_
  have hself : String.toList ∘ String.ofList = id := funext fun _ => String.toList_ofList
  rw [ofParts, String.toList_intercalate, parts, List.map_map, hself, List.map_id]
  exact List.intercalate_splitOn '/'

theorem ofParts_append {ps qs : List String} (hps : ps ≠ []) (hqs : qs ≠ []) :
    ofParts (ps ++ qs) = ofParts ps ++ "/" ++ ofParts qs :=
  String.intercalate_append_of_ne_nil hps hqs

theorem sep_notMem_of_mem_splitOn (sep : Char) (s : List Char) : ∀ chars ∈ s.splitOn sep, sep ∉ chars := by
  induction s with
  | nil => simp
  | cons c s ih =>
    rw [List.splitOn_cons_eq_if_modifyHead]
    split
    · simpa using ih
    · rename_i hc
      cases hs : s.splitOn sep with
      | nil => simp
      | cons first rest =>
        obtain ⟨hfirst, hrest⟩ := List.forall_mem_cons.mp (hs ▸ ih)
        have hfree : sep ∉ c :: first := by
          rw [List.mem_cons, not_or]
          exact ⟨fun heq => hc (beq_iff_eq.mpr heq.symm), hfirst⟩
        exact List.forall_mem_cons.mpr ⟨hfree, hrest⟩

theorem slash_notMem_of_mem_parts {p : Path} {part : String} (h : part ∈ p.parts) : '/' ∉ part.toList := by
  obtain ⟨chars, hchars, rfl⟩ := List.mem_map.mp h
  rw [String.toList_ofList]
  exact sep_notMem_of_mem_splitOn '/' p.toList chars hchars

theorem isStep_iff {part : String} : isStep part = true ↔ part ≠ "" ∧ part ≠ "." := by
  simp [isStep]

/-- A part that leads further is a name. -/
theorem names_of_isStep {part : String} (h : isStep part = true) (hslash : '/' ∉ part.toList) : names part ≠ [] := by
  have hparts : parts part = [part] := by
    rw [parts, List.splitOn_eq_singleton hslash, List.map_singleton, String.ofList_toList]
  rw [names, hparts, List.filter_cons_of_pos (by simpa using (isStep_iff.mp h).1)]
  exact List.cons_ne_nil _ _

theorem names_ofParts_cons (part : String) (below : List String) :
    names (ofParts (part :: below)) = names part ++ names (ofParts below) := by
  match below with
  | [] => exact (List.append_nil _).symm
  | next :: rest =>
    rw [← List.singleton_append, ofParts_append (List.cons_ne_nil _ _) (List.cons_ne_nil _ _), names_append_slash]
    rfl

theorem ofParts_ne_empty {part : String} (h : part ≠ "") (above : List String) : ofParts (above ++ [part]) ≠ "" := by
  match above with
  | [] => exact h
  | first :: rest =>
    rw [ofParts_append (List.cons_ne_nil _ _) (List.cons_ne_nil _ _)]
    intro hempty
    exact h (String.append_eq_empty_iff.mp hempty).2

/-- What is dropped from the end of a path is a part that leads further, and parts that do not. -/
theorem dropStep_eq (parts : List String) :
    dropStep parts = [] ∨ ∃ last part, isStep part = true ∧ parts = last ++ part :: dropStep parts := by
  unfold dropStep
  cases hdrop : parts.dropWhile (!isStep ·) with
  | nil => exact .inl rfl
  | cons part above =>
    have hstep := List.head?_dropWhile_not (!isStep ·) parts
    have hparts := List.takeWhile_append_dropWhile (p := (!isStep ·)) (l := parts)
    rw [hdrop] at hstep hparts
    exact .inr ⟨_, part, by simpa using hstep, hparts.symm⟩

end Path

namespace FileSystem
open AttributeRules.Path

variable {fs made written : FileSystem} {path : Path} {p q : Place}

/-! ### What is kept -/

theorem enter_eq_ok_iff : fs.enter p = .ok () ↔ fs.get? p = some .directory := by
  unfold enter
  split <;> simp_all

theorem follow_append (a b : List String) : fs.follow p (a ++ b) = (fs.follow p a).bind (fs.follow · b) := by
  induction a generalizing p with
  | nil => rfl
  | cons name rest ih =>
    rw [List.cons_append, follow, follow]
    split
    · rfl
    · split
      · rfl
      · exact ih

theorem get?_of_follow_cons {name : String} {rest : List String} (h : fs.follow p (name :: rest) = .ok q) :
    fs.get? p = some .directory := by
  unfold follow at h
  split at h
  · cases h
  · rename_i henter
    exact enter_eq_ok_iff.mp henter

/-- A way stays open as long as its directories are kept. -/
theorem follow_of_kept (hkept : ∀ r, fs.get? r = some .directory → made.get? r = some .directory) {names : List String}
    (h : fs.follow p names = .ok q) : made.follow p names = .ok q := by
  induction names generalizing p with
  | nil => exact h
  | cons name rest ih =>
    unfold follow at h ⊢
    split at h
    · cases h
    · rename_i henter
      rw [enter_eq_ok_iff.mpr (hkept p (enter_eq_ok_iff.mp henter))]
      dsimp only
      split at h
      · cases h
      · rename_i hlength
        rw [if_neg hlength]
        exact ih h

theorem resolve_of_kept (hkept : ∀ r, fs.get? r = some .directory → made.get? r = some .directory)
    (h : fs.resolve path = .ok p) : made.resolve path = .ok p := by
  unfold resolve at h ⊢
  split at h
  · cases h
  · rename_i hfault
    exact follow_of_kept hkept h

theorem find_eq_ok_iff {e : Entry} :
    fs.find path = .ok e ↔
      ∃ p, fs.resolve path = .ok p ∧ fs.get? p = some e ∧ (e ≠ .directory → path.endsWithSlash = false) := by
  unfold find
  split
  · simp_all
  · rename_i p hp
    split
    · simp_all
    · rename_i hdirectory
      cases e <;> simp_all
    · rename_i content hfile
      split <;> cases e <;> simp_all

theorem isDirectory_iff : fs.isDirectory path = true ↔ fs.find path = .ok .directory := by
  unfold isDirectory
  split <;> simp_all

/-- Nothing that was there is taken away. -/
def Keeps (fs made : FileSystem) : Prop := ∀ p e, fs.get? p = some e → made.get? p = some e

theorem Keeps.find (h : Keeps fs made) {e : Entry} (hfind : fs.find path = .ok e) : made.find path = .ok e := by
  obtain ⟨p, hp, he, hslash⟩ := find_eq_ok_iff.mp hfind
  exact find_eq_ok_iff.mpr ⟨p, resolve_of_kept (fun r => h r .directory) hp, h p e he, hslash⟩

/-! ### Making directories -/

theorem keeps_makeDirectory (h : fs.makeDirectory path = .ok made) : Keeps fs made := by
  unfold makeDirectory at h
  split at h
  · cases h
  · rename_i p hp
    split at h
    · cases h
    · rename_i hfree
      cases h
      intro q e he
      have hne : q ≠ p := by
        rintro rfl
        exact hfree (he ▸ rfl)
      rw [get?_put_of_ne hne, he]

/-- Making directories is making one after the other. -/
theorem makeDirectories_induction {r : FileSystem → FileSystem → Prop} (hrefl : ∀ fs, r fs fs)
    (htrans : ∀ {fs made all}, r fs made → r made all → r fs all)
    (hmake : ∀ {fs made path}, fs.makeDirectory path = .ok made → r fs made) (fs : FileSystem) (parts : List String) :
    r fs (fs.makeDirectories parts).2 := by
  induction parts generalizing fs with
  | nil => exact hrefl fs
  | cons part above ih =>
    unfold makeDirectories
    split
    · dsimp only
      split
      · exact hmake ‹_›
      · have habove := ih fs
        split
        · rename_i e made hmade
          rwa [hmade] at habove
        · rename_i made hmade
          rw [hmade] at habove
          split
          · rename_i all hall
            exact htrans habove (hmake hall)
          · exact habove
      · exact hrefl fs
    · exact ih fs

theorem keeps_makeDirectories (parts : List String) : Keeps fs (fs.makeDirectories parts).2 :=
  makeDirectories_induction (fun _ _ _ h => h) (fun h₁ h₂ p e he => h₂ p e (h₁ p e he)) keeps_makeDirectory fs parts

theorem find_makeParents {e : Entry} (h : fs.find path = .ok e) : (fs.makeParents path).2.find path = .ok e :=
  (keeps_makeDirectories _).find h

/-- What a path passes on its way is a directory. -/
theorem find_of_resolve_append {before after : Path} (hbefore : before ≠ "") (hafter : names after ≠ [])
    (h : fs.resolve (before ++ "/" ++ after) = .ok p) : fs.find before = .ok .directory := by
  unfold resolve at h
  split at h
  · cases h
  · rename_i hfault
    rw [String.append_assoc] at hfault
    rw [names_append_slash, String.append_assoc, start_append hbefore, follow_append] at h
    obtain ⟨name, rest, hnames⟩ := List.exists_cons_of_ne_nil hafter
    rw [hnames] at h
    cases hfollow : fs.follow (start before) (names before) with
    | error e =>
      rw [hfollow] at h
      cases h
    | ok q =>
      have hresolve : fs.resolve before = .ok q := by
        rw [resolve, fault?_of_append hbefore hfault, hfollow]
      rw [hfollow] at h
      exact find_eq_ok_iff.mpr ⟨q, hresolve, get?_of_follow_cons h, fun hne => absurd rfl hne⟩

/-- No path goes through what is no directory. -/
theorem resolve_of_not_isDirectory {parts below : List String} (hparts : ofParts parts ≠ "")
    (hbelow : names (ofParts below) ≠ []) (h : fs.isDirectory (ofParts parts) = false) :
    fs.resolve (ofParts (parts ++ below)) ≠ .ok p := by
  intro hresolve
  have hne : parts ≠ [] := by
    rintro rfl
    exact hparts rfl
  have hbelowNe : below ≠ [] := by
    rintro rfl
    exact hbelow rfl
  rw [ofParts_append hne hbelowNe] at hresolve
  have hdirectory := isDirectory_iff.mpr (find_of_resolve_append hparts hbelow hresolve)
  rw [h] at hdirectory
  cases hdirectory

/-- No path goes through directories that could not be made. -/
theorem resolve_of_makeDirectories_error {parts : List String} {e : OsError}
    (h : fs.makeDirectories parts = (.error e, made)) {below : List String} (hbelow : names (ofParts below) ≠ []) :
    made.resolve (ofParts (parts.reverse ++ below)) ≠ .ok p := by
  induction parts generalizing made e below with
  | nil => cases h
  | cons part above ih =>
    have hshift : (part :: above).reverse ++ below = above.reverse ++ part :: below := by
      rw [List.reverse_cons, List.append_assoc, List.singleton_append]
    have hmore : names (ofParts (part :: below)) ≠ [] := by
      rw [names_ofParts_cons]
      exact List.append_ne_nil_of_right_ne_nil _ hbelow
    unfold makeDirectories at h
    split at h
    · rename_i hstep
      have hpath : ofParts (part :: above).reverse ≠ "" := by
        rw [List.reverse_cons]
        exact ofParts_ne_empty (isStep_iff.mp hstep).1 _
      dsimp only at h
      split at h
      · cases h
      · -- The directory above was missing: either it could not be made, or this one could not.
        split at h
        · rename_i hmade
          cases h
          rw [hshift]
          exact ih hmade hmore
        · split at h
          · cases h
          · split at h
            · cases h
            · cases h
              exact resolve_of_not_isDirectory hpath hbelow (Bool.eq_false_iff.mpr ‹_›)
      · split at h
        · cases h
        · cases h
          exact resolve_of_not_isDirectory hpath hbelow (Bool.eq_false_iff.mpr ‹_›)
    · rw [hshift]
      exact ih h hmore

/-- Where the directories above a path cannot be made, it leads nowhere. -/
theorem find_of_makeParents_error {e : OsError} (h : fs.makeParents path = (.error e, made)) (entry : Entry) :
    made.find path ≠ .ok entry := by
  intro hfind
  obtain ⟨p, hp, -⟩ := find_eq_ok_iff.mp hfind
  unfold makeParents at h
  rcases dropStep_eq path.parts.reverse with hnil | ⟨last, part, hstep, hparts⟩
  · rw [hnil] at h
    cases h
  · have hpath : path.parts = (dropStep path.parts.reverse).reverse ++ part :: last.reverse := by
      have hreverse := congrArg List.reverse hparts
      rwa [List.reverse_reverse, List.reverse_append, List.reverse_cons, List.append_assoc, List.singleton_append]
        at hreverse
    have hslash : '/' ∉ part.toList := by
      refine slash_notMem_of_mem_parts (p := path) ?_
      rw [hpath]
      exact List.mem_append_right _ List.mem_cons_self
    have hnames : names (ofParts (part :: last.reverse)) ≠ [] := by
      rw [names_ofParts_cons]
      exact List.append_ne_nil_of_left_ne_nil (names_of_isStep hstep hslash) _
    rw [← ofParts_parts path, hpath] at hp
    exact resolve_of_makeDirectories_error h hnames hp

/-! ### Writing a file -/

theorem resolveFile_eq_ok_iff :
    fs.resolveFile path = .ok p ↔
      path.endsWithSlash = false ∧ fs.resolve path = .ok p ∧ fs.get? p ≠ some .directory := by
  unfold resolveFile
  cases path.endsWithSlash with
  | true =>
    -- A path that ends with a slash is refused, whatever it leads to.
    simp only [if_true]
    split
    · simp
    · cases fs.follow path.start path.names.dropLast with
      | error e => simp [bind, Except.bind]
      | ok q => cases henter : fs.enter q <;> simp [bind, Except.bind, henter, throw, throwThe, MonadExceptOf.throw]
  | false =>
    cases fs.resolve path with
    | error e => simp [bind, Except.bind]
    | ok q =>
      show (if fs.get? q = some .directory then Except.error OsError.isDirectory else Except.ok q) = .ok p ↔ _
      split
      · rename_i hdirectory
        refine ⟨(fun h => nomatch h), ?_⟩
        rintro ⟨-, hq, hnot⟩
        cases hq
        exact absurd hdirectory hnot
      · rename_i hnot
        refine ⟨?_, fun h => h.2.1⟩
        rintro hq
        cases hq
        exact ⟨rfl, rfl, hnot⟩

theorem write_eq_ok_iff {content : String} :
    fs.write path content = .ok written ↔ ∃ p, fs.resolveFile path = .ok p ∧ written = fs.put p (.file content) := by
  unfold write
  cases fs.resolveFile path with
  | error e => simp [bind, Except.bind]
  | ok p => simp [bind, Except.bind, pure, Except.pure, eq_comm]

/-- A file is written at the place that its path leads to afterwards. -/
theorem exists_of_write {content : String} (h : fs.write path content = .ok written) :
    ∃ p, written.resolve path = .ok p ∧ written = fs.put p (.file content) ∧ p.isAnchor = false ∧
      path.endsWithSlash = false := by
  obtain ⟨p, hp, rfl⟩ := write_eq_ok_iff.mp h
  obtain ⟨hslash, hresolve, hnot⟩ := resolveFile_eq_ok_iff.mp hp
  have hanchor : p.isAnchor = false := Bool.eq_false_iff.mpr fun hanchor => hnot (by rw [get?, if_pos hanchor])
  have hkept : ∀ r, fs.get? r = some .directory → (fs.put p (.file content)).get? r = some .directory := by
    intro r hr
    have hne : r ≠ p := by
      rintro rfl
      exact hnot hr
    rw [get?_put_of_ne hne, hr]
  exact ⟨p, resolve_of_kept hkept hresolve, rfl, hanchor, hslash⟩

/-- A file that was written is what its path leads to. -/
theorem find_write {content : String} (h : fs.write path content = .ok written) :
    written.find path = .ok (.file content) := by
  obtain ⟨p, hresolve, hput, hanchor, hslash⟩ := exists_of_write h
  have hfile : written.get? p = some (.file content) := by
    rw [hput, get?_put_self hanchor]
  exact find_eq_ok_iff.mpr ⟨p, hresolve, hfile, fun _ => hslash⟩

/-- A path that leads to a file can be written. -/
theorem find_of_write_error {content : String} {e : OsError} (h : fs.write path content = .error e) (old : String) :
    fs.find path ≠ .ok (.file old) := by
  intro hfind
  obtain ⟨p, hresolve, hfile, hslash⟩ := find_eq_ok_iff.mp hfind
  have hnot : fs.get? p ≠ some .directory := by
    rw [hfile]
    exact fun heq => nomatch heq
  have hp := resolveFile_eq_ok_iff.mpr ⟨hslash (fun heq => nomatch heq), hresolve, hnot⟩
  have hwrite : fs.write path content = .ok (fs.put p (.file content)) := write_eq_ok_iff.mpr ⟨p, hp, rfl⟩
  rw [h] at hwrite
  cases hwrite

end FileSystem
end AttributeRules
