import AccountKeeper.Proofs.Files.Changes

/-!
# Names below a directory

A path that is joined of a directory and a plain name has the parts of the
directory and then the name, so it names what has this name in the directory.
-/

set_option autoImplicit false

namespace AccountKeeper

namespace Path

/-- A name as it stands between two slashes of a path. -/
structure IsName (name : String) : Prop where
  noSlash : '/' ∉ name.toList
  nonempty : name ≠ ""
  notHere : name ≠ "."
  notAbove : name ≠ ".."

theorem IsName.toList_ne {name : String} (isName : IsName name) : name.toList ≠ [] := by
  intro none
  exact isName.nonempty (String.toList_inj.mp none)

theorem parts_name {name : String} (isName : IsName name) : parts name = [name] := by
  unfold parts
  rw [Text.pieces_without '/' name.toList isName.noSlash]
  simp [isName.toList_ne]

theorem parts_slash (first rest : List Char) :
    parts (String.ofList (first ++ '/' :: rest)) =
      parts (String.ofList first) ++ parts (String.ofList rest) := by
  simp [parts, Text.pieces_append]

theorem IsName.relative {name : String} (isName : IsName name) : isAbsolute name = false := by
  unfold isAbsolute
  cases split : name.toList with
  | nil => rfl
  | cons c rest =>
    have differs : c ≠ '/' := by
      rintro rfl
      exact isName.noSlash (by simp [split])
    simpa using differs

theorem join_empty {name : String} (isName : IsName name) : join "" name = name := by
  simp [join, isName.relative]

theorem join_eq {base name : String} (isName : IsName name) (nonempty : base ≠ "") :
    join base name = if endsInSlash base then base ++ name else base ++ "/" ++ name := by
  simp [join, isName.relative, nonempty]

theorem join_extends {base name : String} (isName : IsName name) (nonempty : base ≠ "") :
    ∃ more, join base name = base ++ more ∧ more.toList.getLast? = name.toList.getLast? := by
  rw [join_eq isName nonempty]
  split
  · exact ⟨name, rfl, rfl⟩
  · refine ⟨"/" ++ name, String.append_assoc, ?_⟩
    obtain ⟨c, rest, split⟩ := List.exists_cons_of_ne_nil isName.toList_ne
    simp [split]

theorem parts_join {base name : String} (isName : IsName name) :
    parts (join base name) = parts base ++ [name] := by
  by_cases nonempty : base = ""
  · subst nonempty
    rw [join_empty isName, parts_name isName]
    rfl
  rw [join_eq isName nonempty]
  by_cases slash : endsInSlash base = true
  · obtain ⟨before, whole⟩ : ∃ before, base.toList = before ++ ['/'] :=
      List.getLast?_eq_some_iff.mp (by simpa [endsInSlash] using slash)
    have base_eq : base = String.ofList (before ++ '/' :: []) := by
      rw [← whole, String.ofList_toList]
    have joined : base ++ name = String.ofList (before ++ '/' :: name.toList) := by
      rw [base_eq]
      exact String.toList_inj.mp (by simp)
    rw [if_pos slash, joined, parts_slash, String.ofList_toList, parts_name isName, base_eq,
      parts_slash]
    simp [parts, Text.pieces]
  · have joined : base ++ "/" ++ name = String.ofList (base.toList ++ '/' :: name.toList) :=
      String.toList_inj.mp (by simp)
    rw [if_neg slash, joined, parts_slash, String.ofList_toList, String.ofList_toList,
      parts_name isName]

theorem isAbsolute_join {base name : String} (isName : IsName name) :
    isAbsolute (join base name) = isAbsolute base := by
  by_cases nonempty : base = ""
  · subst nonempty
    rw [join_empty isName, isName.relative]
    rfl
  · obtain ⟨more, whole, _⟩ := join_extends isName nonempty
    obtain ⟨c, rest, split⟩ := List.exists_cons_of_ne_nil
      (fun none => nonempty (String.toList_inj.mp none) : base.toList ≠ [])
    simp [isAbsolute, whole, split]

theorem endsInSlash_join {base name : String} (isName : IsName name) :
    endsInSlash (join base name) = false := by
  have unslashed : name.toList.getLast? ≠ some '/' := fun last =>
    isName.noSlash (List.mem_of_getLast? last)
  by_cases nonempty : base = ""
  · subst nonempty
    simpa [join_empty isName, endsInSlash] using unslashed
  · obtain ⟨more, whole, last⟩ := join_extends isName nonempty
    have last' : (base ++ more).toList.getLast? = name.toList.getLast? := by
      rw [String.toList_append, List.getLast?_append, last,
        List.getLast?_eq_some_getLast isName.toList_ne]
      rfl
    rw [endsInSlash, whole, last']
    simpa using unslashed

end Path

namespace FileTree

variable {tree : FileTree} {base name : String} {arrival : Arrival}

/-- A path that is joined of a directory and a name names what has the name in that directory. -/
theorem follow_join (isName : Path.IsName name)
    (followed : tree.follow .never (Path.join base name) = .ok arrival) :
    (base = "" ∧ arrival = ⟨tree.workingDirectory ++ [name], true, false⟩) ∨
      ∃ middle, tree.follow .always base = .ok middle ∧
        arrival = ⟨middle.place ++ [name], true, false⟩ := by
  obtain ⟨followable, way⟩ := follow_eq_ok.mp followed
  rw [Path.parts_join isName, Path.endsInSlash_join isName] at way
  have start : tree.startOf (Path.join base name) = tree.startOf base := by
    unfold startOf
    rw [Path.isAbsolute_join isName]
  rw [start] at way
  by_cases nonempty : base = ""
  · subst nonempty
    exact .inl ⟨rfl, way.never_single isName.notHere isName.notAbove⟩
  · obtain ⟨middle, _, _, before, after⟩ := way.split (by simp) (Path.endsInSlash base)
    refine .inr ⟨middle, follow_eq_ok.mpr ⟨?_, before⟩,
      after.never_single isName.notHere isName.notAbove⟩
    obtain ⟨more, whole, _⟩ := Path.join_extends isName nonempty
    obtain ⟨noEndMark, _, fits⟩ := followable
    rw [whole] at noEndMark fits
    rw [String.toList_append, List.mem_append] at noEndMark
    rw [String.utf8ByteSize_append] at fits
    exact ⟨fun member => noEndMark (.inl member), nonempty, by omega⟩

end FileTree

end AccountKeeper
