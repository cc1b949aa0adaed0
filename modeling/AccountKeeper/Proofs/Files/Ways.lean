import AccountKeeper.Files.Tree

/-!
# Ways through a file tree

`Way` says how the names of a path lead from one place to another: it is the walk
along a path as a relation, with a constructor for each thing that a name can do.
A way depends on the directories and links that it meets and on nothing else, so
it stays the same in every tree that keeps them.
-/

set_option autoImplicit false

namespace AccountKeeper.FileTree

/-- A name that leads to something in the directory it is looked up in. -/
structure Proper (name : String) : Prop where
  notHere : name ≠ "."
  notAbove : name ≠ ".."
  fits : name.utf8ByteSize ≤ nameLimit

/-- The names `rest` lead from the directory `here` to an arrival, in so many steps and links. -/
inductive Way (tree : FileTree) (passing : Passing) :
    Nat → Nat → Place → List String → Bool → Arrival → Prop where
  | arrive (steps links : Nat) (here : Place) (slash : Bool) :
      Way tree passing (steps + 1) links here [] slash ⟨here, false, slash⟩
  | stay {steps links : Nat} {here : Place} {rest : List String} {slash : Bool}
      {arrival : Arrival} (later : Way tree passing steps links here rest slash arrival) :
      Way tree passing (steps + 1) links here ("." :: rest) slash arrival
  | ascend {steps links : Nat} {here : Place} {rest : List String} {slash : Bool}
      {arrival : Arrival} (later : Way tree passing steps links here.dropLast rest slash arrival) :
      Way tree passing (steps + 1) links here (".." :: rest) slash arrival
  | stop (steps links : Nat) {here : Place} {name : String} {slash : Bool}
      (proper : Proper name)
      (last : ∀ target, tree.at? (here ++ [name]) = some (.link target) → passing slash = false) :
      Way tree passing (steps + 1) links here [name] slash ⟨here ++ [name], true, slash⟩
  | descend {steps links : Nat} {here : Place} {name : String} {rest : List String}
      {slash : Bool} {arrival : Arrival} (proper : Proper name)
      (found : tree.at? (here ++ [name]) = some .directory) (more : rest ≠ [])
      (later : Way tree passing steps links (here ++ [name]) rest slash arrival) :
      Way tree passing (steps + 1) links here (name :: rest) slash arrival
  | pass {steps links : Nat} {here : Place} {name target : String} {rest : List String}
      {slash : Bool} {arrival : Arrival} (proper : Proper name)
      (found : tree.at? (here ++ [name]) = some (.link target))
      (goes : rest ≠ [] ∨ passing slash = true)
      (later : Way tree passing steps links (if Path.isAbsolute target then [] else here)
        (Path.parts target ++ rest) (slash || (rest.isEmpty && Path.endsInSlash target)) arrival) :
      Way tree passing (steps + 1) (links + 1) here (name :: rest) slash arrival

/-! ## Walks are ways -/

namespace Trail

theorem further_ofPlace (tree : FileTree) (place : Place) (name : String) :
    (ofPlace tree place).further tree name = ofPlace tree (place ++ [name]) := by
  simp [ofPlace]

theorem place_foldl (tree : FileTree) (trail : Trail) (names : Place) :
    (names.foldl (further tree) trail).place = trail.place ++ names := by
  induction names generalizing trail with
  | nil => simp
  | cons name names ih =>
    rw [List.foldl_cons, ih]
    simp [further, Trail.place]

theorem place_ofPlace (tree : FileTree) (place : Place) : (ofPlace tree place).place = place :=
  place_foldl tree [] place

theorem tail_ofPlace (tree : FileTree) (place : Place) :
    (ofPlace tree place).tail = ofPlace tree place.dropLast := by
  rcases List.eq_nil_or_concat place with rfl | ⟨before, name, rfl⟩
  · rfl
  · rw [List.concat_eq_append, ← further_ofPlace, List.dropLast_concat]
    rfl

theorem at?_ofPlace (tree : FileTree) (place : Place) (name : String) :
    ((ofPlace tree (place ++ [name])).branch tree).at? [] = tree.at? (place ++ [name]) := by
  rw [at?_branch_ofPlace, List.append_nil]
  simp [FileTree.at?]

end Trail

variable {tree tree' : FileTree} {passing passing' : Passing} {steps links : Nat}
  {here : Place} {rest : List String} {slash : Bool} {arrival : Arrival}

theorem walk_proper (tree : FileTree) (passing : Passing) (steps links : Nat) (here : Place)
    (name : String) (rest : List String) (slash : Bool) (proper : Proper name) :
    tree.walk passing (steps + 1) links (Trail.ofPlace tree here) (name :: rest) slash =
      match tree.at? (here ++ [name]) with
      | none => if rest = [] then .ok ⟨here ++ [name], true, slash⟩ else .error .notFound
      | some .directory =>
        if rest = [] then .ok ⟨here ++ [name], true, slash⟩
        else tree.walk passing steps links (Trail.ofPlace tree (here ++ [name])) rest slash
      | some (.file _ _) =>
        if rest = [] then .ok ⟨here ++ [name], true, slash⟩ else .error .notADirectory
      | some (.link target) =>
        if rest = [] ∧ ¬passing slash then .ok ⟨here ++ [name], true, slash⟩
        else
          match links with
          | 0 => .error .tooManyLinks
          | links + 1 =>
            tree.walk passing steps links
              (Trail.ofPlace tree (if Path.isAbsolute target then [] else here))
              (Path.parts target ++ rest)
              (slash || (rest.isEmpty && Path.endsInSlash target)) := by
  obtain ⟨notHere, notAbove, fits⟩ := proper
  rw [walk, if_neg notHere, if_neg notAbove, if_neg (Nat.not_lt.mpr fits)]
  simp only [Trail.further_ofPlace, Trail.at?_ofPlace, Trail.place_ofPlace]
  cases tree.at? (here ++ [name]) with
  | none => rfl
  | some node =>
    cases node with
    | file _ _ => rfl
    | directory => rfl
    | link target =>
      by_cases absolute : Path.isAbsolute target = true
      · simp only [absolute, if_true]
        rfl
      · simp only [absolute]
        rfl

theorem Way.of_walk
    (walked : tree.walk passing steps links (Trail.ofPlace tree here) rest slash = .ok arrival) :
    Way tree passing steps links here rest slash arrival := by
  induction steps generalizing links here rest slash with
  | zero => cases walked
  | succ steps ih =>
    cases rest with
    | nil =>
      rw [walk, Trail.place_ofPlace] at walked
      cases walked
      exact .arrive steps links here slash
    | cons name rest =>
      by_cases notHere : name = "."
      · rw [walk, if_pos notHere] at walked
        rw [notHere]
        exact .stay (ih walked)
      by_cases notAbove : name = ".."
      · rw [walk, if_neg notHere, if_pos notAbove, Trail.tail_ofPlace] at walked
        rw [notAbove]
        exact .ascend (ih walked)
      by_cases long : nameLimit < name.utf8ByteSize
      · rw [walk, if_neg notHere, if_neg notAbove, if_pos long] at walked
        cases walked
      have proper : Proper name := ⟨notHere, notAbove, Nat.not_lt.mp long⟩
      have ends (last : rest = [])
          (stops : ∀ target, tree.at? (here ++ [name]) = some (.link target) →
            passing slash = false) :
          Way tree passing (steps + 1) links here (name :: rest) slash
            ⟨here ++ [name], true, slash⟩ := by
        rw [last]
        exact .stop steps links proper stops
      rw [walk_proper tree passing steps links here name rest slash proper] at walked
      cases found : tree.at? (here ++ [name]) with
      | none =>
        simp only [found] at walked
        split at walked
        · rename_i last
          cases walked
          exact ends last (by simp [found])
        · cases walked
      | some node =>
        cases node with
        | file content mode =>
          simp only [found] at walked
          split at walked
          · rename_i last
            cases walked
            exact ends last (by simp [found])
          · cases walked
        | directory =>
          simp only [found] at walked
          split at walked
          · rename_i last
            cases walked
            exact ends last (by simp [found])
          · rename_i more
            exact .descend proper found more (ih walked)
        | link target =>
          simp only [found] at walked
          split at walked
          · rename_i last
            cases walked
            exact ends last.1 fun _ _ => Bool.eq_false_iff.mpr last.2
          · rename_i goes
            cases links with
            | zero => cases walked
            | succ links =>
              refine .pass proper found ?_ (ih walked)
              by_cases last : rest = []
              · exact .inr (by simpa [last] using goes)
              · exact .inl last

theorem Way.walk (way : Way tree passing steps links here rest slash arrival) :
    tree.walk passing steps links (Trail.ofPlace tree here) rest slash = .ok arrival := by
  induction way with
  | arrive steps links here slash => rw [FileTree.walk, Trail.place_ofPlace]
  | stay later ih => rw [FileTree.walk, if_pos rfl, ih]
  | ascend later ih =>
    rw [FileTree.walk, if_neg (by decide), if_pos rfl, Trail.tail_ofPlace, ih]
  | @stop steps links here name slash proper last =>
    rw [walk_proper tree passing steps links here name [] slash proper]
    cases found : tree.at? (here ++ [name]) with
    | none => rfl
    | some node =>
      cases node with
      | file _ _ => rfl
      | directory => rfl
      | link target =>
        simp [last target found]
  | descend proper found more later ih =>
    rw [walk_proper _ _ _ _ _ _ _ _ proper, found]
    simp only [if_neg more, ih]
  | @pass _ _ _ _ target rest slash _ proper found goes later ih =>
    rw [walk_proper _ _ _ _ _ _ _ _ proper, found]
    have further : ¬(rest = [] ∧ ¬passing slash = true) := by
      rintro ⟨last, stops⟩
      rcases goes with more | passes
      · exact more last
      · exact stops passes
    simp only [if_neg further, ih]

theorem walk_eq_ok :
    tree.walk passing steps links (Trail.ofPlace tree here) rest slash = .ok arrival ↔
      Way tree passing steps links here rest slash arrival :=
  ⟨.of_walk, Way.walk⟩

/-! ## Trees with the same ways -/

/-- A tree that has all directories and links of another one; its files may differ. -/
structure KeepsWays (tree tree' : FileTree) : Prop where
  start : tree'.workingDirectory = tree.workingDirectory
  directory : ∀ place, tree.at? place = some .directory → tree'.at? place = some .directory
  link : ∀ place target, tree.at? place = some (.link target) →
    tree'.at? place = some (.link target)

/-- A place that no way leads through: a file stands there, or nothing. -/
structure Leaf (tree : FileTree) (place : Place) : Prop where
  noDirectory : tree.at? place ≠ some .directory
  noLink : ∀ target, tree.at? place ≠ some (.link target)

theorem Leaf.not_root {place : Place} (leaf : tree.Leaf place) : place ≠ [] := by
  rintro rfl
  exact leaf.noDirectory rfl

theorem Leaf.of_absent {place : Place} (absent : tree.at? place = none) : tree.Leaf place :=
  ⟨by simp [absent], by simp [absent]⟩

namespace KeepsWays

theorem refl (tree : FileTree) : tree.KeepsWays tree :=
  ⟨rfl, fun _ found => found, fun _ _ found => found⟩

theorem trans {tree'' : FileTree} (first : tree.KeepsWays tree')
    (second : tree'.KeepsWays tree'') : tree.KeepsWays tree'' where
  start := second.start.trans first.start
  directory place found := second.directory place (first.directory place found)
  link place target found := second.link place target (first.link place target found)

theorem put {place : Place} (leaf : tree.Leaf place) (node : FileNode) :
    tree.KeepsWays (tree.put place node) where
  start := rfl
  directory other found := by
    have different : other ≠ place := by
      rintro rfl
      exact leaf.noDirectory found
    rw [at?_put tree place other node leaf.not_root, if_neg different, found]
  link other target found := by
    have different : other ≠ place := by
      rintro rfl
      exact leaf.noLink target found
    rw [at?_put tree place other node leaf.not_root, if_neg different, found]

theorem erase {place : Place} (leaf : tree.Leaf place) : tree.KeepsWays (tree.erase place) where
  start := rfl
  directory other found := by
    have different : other ≠ place := by
      rintro rfl
      exact leaf.noDirectory found
    rw [at?_erase tree place other leaf.not_root, if_neg different, found]
  link other target found := by
    have different : other ≠ place := by
      rintro rfl
      exact leaf.noLink target found
    rw [at?_erase tree place other leaf.not_root, if_neg different, found]

end KeepsWays

namespace Way

theorem mono (keeps : tree.KeepsWays tree')
    (way : Way tree passing steps links here rest slash arrival)
    (ends : ∀ target, tree'.at? arrival.place = some (.link target) →
      passing arrival.slash = false) :
    Way tree' passing steps links here rest slash arrival := by
  induction way with
  | arrive steps links here slash => exact .arrive steps links here slash
  | stay later ih => exact .stay (ih ends)
  | ascend later ih => exact .ascend (ih ends)
  | stop steps links proper last => exact .stop steps links proper ends
  | descend proper found more later ih =>
    exact .descend proper (keeps.directory _ found) more (ih ends)
  | pass proper found goes later ih =>
    exact .pass proper (keeps.link _ _ found) goes (ih ends)

/-! ## Ways with other links at their end -/

theorem slash_le (way : Way tree passing steps links here rest slash arrival)
    (insists : slash = true) : arrival.slash = true := by
  induction way with
  | arrive steps links here slash => exact insists
  | stay later ih => exact ih insists
  | ascend later ih => exact ih insists
  | stop steps links proper last => exact insists
  | descend proper found more later ih => exact ih insists
  | pass proper found goes later ih => exact ih (by simp [insists])

/-- A way that does not end at a link is a way for everything that passes the same links. -/
theorem change (way : Way tree passing steps links here rest slash arrival)
    (goes : ∀ s, (s = true → arrival.slash = true) → passing s = true → passing' s = true)
    (ends : ∀ target, tree.at? arrival.place ≠ some (.link target)) :
    Way tree passing' steps links here rest slash arrival := by
  induction way with
  | arrive steps links here slash => exact .arrive steps links here slash
  | stay later ih => exact .stay (ih goes ends)
  | ascend later ih => exact .ascend (ih goes ends)
  | stop steps links proper last =>
    exact .stop steps links proper fun target found => absurd found (ends target)
  | descend proper found more later ih => exact .descend proper found more (ih goes ends)
  | pass proper found passes later ih =>
    refine .pass proper found (passes.imp_right fun here => ?_) (ih goes ends)
    exact goes _ (fun insists => later.slash_le (by simp [insists])) here

/-- Without passing a link at its end, a way ends where it did or at such a link. -/
theorem never (way : Way tree passing steps links here rest slash arrival) :
    Way tree .never steps links here rest slash arrival ∨
      ∃ named target, Way tree .never steps links here rest slash named ∧
        tree.at? named.place = some (.link target) := by
  induction way with
  | arrive steps links here slash => exact .inl (.arrive steps links here slash)
  | stay later ih =>
    rcases ih with same | ⟨named, target, way, found⟩
    · exact .inl (.stay same)
    · exact .inr ⟨named, target, .stay way, found⟩
  | ascend later ih =>
    rcases ih with same | ⟨named, target, way, found⟩
    · exact .inl (.ascend same)
    · exact .inr ⟨named, target, .ascend way, found⟩
  | stop steps links proper last => exact .inl (.stop steps links proper fun _ _ => rfl)
  | descend proper found more later ih =>
    rcases ih with same | ⟨named, target, way, ends⟩
    · exact .inl (.descend proper found more same)
    · exact .inr ⟨named, target, .descend proper found more way, ends⟩
  | @pass steps links here name target rest slash _ proper found goes later ih =>
    by_cases last : rest = []
    · subst last
      exact .inr ⟨_, target, .stop steps (links + 1) proper (fun _ _ => rfl), found⟩
    · rcases ih with same | ⟨named, target', way, ends⟩
      · exact .inl (.pass proper found (.inl last) same)
      · exact .inr ⟨named, target', .pass proper found (.inl last) way, ends⟩

theorem never_slash (way : Way tree .never steps links here rest slash arrival) :
    arrival.slash = slash := by
  induction way with
  | arrive steps links here slash => rfl
  | stay later ih => exact ih
  | ascend later ih => exact ih
  | stop steps links proper last => rfl
  | descend proper found more later ih => exact ih
  | @pass _ _ _ _ _ rest _ _ proper found goes later ih =>
    rcases goes with more | passes
    · simpa [List.isEmpty_eq_false_iff.mpr more] using ih
    · cases passes

/-- Nothing but a slash behind a path makes its inspection pass a link. -/
theorem bySlash (way : Way tree .never steps links here rest slash arrival)
    (slashless : slash = false) : Way tree .bySlash steps links here rest slash arrival := by
  induction way with
  | arrive steps links here slash => exact .arrive steps links here slash
  | stay later ih => exact .stay (ih slashless)
  | ascend later ih => exact .ascend (ih slashless)
  | stop steps links proper last => exact .stop steps links proper fun _ _ => slashless
  | descend proper found more later ih => exact .descend proper found more (ih slashless)
  | @pass _ _ _ _ _ rest _ _ proper found goes later ih =>
    rcases goes with more | passes
    · exact .pass proper found (.inl more) (ih (by simp [slashless, more]))
    · cases passes

/-! ## Parts of a way -/

theorem at_start (way : Way tree passing steps links here rest slash arrival) (ending : Bool) :
    Way tree .always steps links here [] ending ⟨here, false, ending⟩ := by
  cases way <;> exact .arrive _ _ here ending

/-- A way along some names and further ones is a way along the first, and from there on. -/
theorem split {names further : List String}
    (way : Way tree passing steps links here (names ++ further) slash arrival)
    (more : further ≠ []) (ending : Bool) :
    ∃ middle steps' links', Way tree .always steps links here names ending middle ∧
      Way tree passing steps' links' middle.place further slash arrival := by
  generalize whole : names ++ further = all at way
  induction way generalizing names ending with
  | arrive steps links here slash =>
    exact absurd (List.append_eq_nil_iff.mp whole).2 more
  | stay later ih =>
    rcases names with _ | ⟨first, names⟩
    · cases whole
      exact ⟨_, _, _, at_start (.stay later) ending, .stay later⟩
    · obtain ⟨rfl, along⟩ := List.cons.inj whole
      obtain ⟨middle, steps', links', before, after⟩ := ih ending along
      exact ⟨middle, steps', links', .stay before, after⟩
  | ascend later ih =>
    rcases names with _ | ⟨first, names⟩
    · cases whole
      exact ⟨_, _, _, at_start (.ascend later) ending, .ascend later⟩
    · obtain ⟨rfl, along⟩ := List.cons.inj whole
      obtain ⟨middle, steps', links', before, after⟩ := ih ending along
      exact ⟨middle, steps', links', .ascend before, after⟩
  | stop steps links proper last =>
    rcases names with _ | ⟨first, names⟩
    · cases whole
      exact ⟨_, _, _, .arrive steps links _ ending, .stop steps links proper last⟩
    · obtain ⟨_, none⟩ := List.cons.inj whole
      exact absurd (List.append_eq_nil_iff.mp none).2 more
  | @descend steps links _ _ _ _ _ proper found others later ih =>
    rcases names with _ | ⟨first, names⟩
    · cases whole
      exact ⟨_, _, _, .arrive steps links _ ending, .descend proper found others later⟩
    · obtain ⟨rfl, along⟩ := List.cons.inj whole
      by_cases last : names = []
      · subst last
        cases along
        exact ⟨_, _, _, .stop steps links proper (by simp [found]), later⟩
      · obtain ⟨middle, steps', links', before, after⟩ := ih ending along
        exact ⟨middle, steps', links', .descend proper found last before, after⟩
  | @pass steps links _ _ target _ _ _ proper found goes later ih =>
    rcases names with _ | ⟨first, names⟩
    · cases whole
      exact ⟨_, _, _, .arrive steps (links + 1) _ ending, .pass proper found goes later⟩
    · obtain ⟨rfl, rfl⟩ := List.cons.inj whole
      obtain ⟨middle, steps', links', before, after⟩ :=
        ih (ending || (names.isEmpty && Path.endsInSlash target)) (List.append_assoc _ _ _)
      have others : (names ++ further).isEmpty = false :=
        List.isEmpty_eq_false_iff.mpr fun none => more (List.append_eq_nil_iff.mp none).2
      refine ⟨middle, steps', links', .pass proper found (.inr rfl) before, ?_⟩
      simpa [others] using after

/-- The last name of a path is looked up in the directory that the names before it lead to. -/
theorem never_single {name : String} (notHere : name ≠ ".") (notAbove : name ≠ "..")
    (way : Way tree .never steps links here [name] slash arrival) :
    arrival = ⟨here ++ [name], true, slash⟩ := by
  cases way with
  | stay _ => exact absurd rfl notHere
  | ascend _ => exact absurd rfl notAbove
  | stop _ _ _ _ => rfl
  | descend _ _ more _ => exact absurd rfl more
  | pass _ _ goes _ => simp [Passing.never] at goes

end Way

/-! ## Following paths -/

/-- What a path must be for the file system to look at its names. -/
structure Followable (path : String) : Prop where
  noEndMark : '\x00' ∉ path.toList
  nonempty : path ≠ ""
  fits : path.utf8ByteSize ≤ pathLimit

def startOf (tree : FileTree) (path : String) : Place :=
  if Path.isAbsolute path then [] else tree.workingDirectory

variable {path : String}

theorem follow_eq_ok :
    tree.follow passing path = .ok arrival ↔
      Followable path ∧ Way tree passing stepLimit linkLimit (tree.startOf path)
        (Path.parts path) (Path.endsInSlash path) arrival := by
  have start : (if Path.isAbsolute path then [] else Trail.ofPlace tree tree.workingDirectory) =
      Trail.ofPlace tree (tree.startOf path) := by
    unfold startOf
    split <;> rfl
  rw [← walk_eq_ok, ← start]
  unfold follow
  constructor
  · intro followed
    split at followed
    · cases followed
    rename_i noEndMark
    split at followed
    · cases followed
    rename_i nonempty
    split at followed
    · cases followed
    rename_i fits
    exact ⟨⟨by simpa using noEndMark, nonempty, Nat.not_lt.mp fits⟩, followed⟩
  · rintro ⟨⟨noEndMark, nonempty, fits⟩, walked⟩
    rw [if_neg (by simpa using noEndMark), if_neg nonempty, if_neg (Nat.not_lt.mpr fits)]
    exact walked

theorem KeepsWays.startOf (keeps : tree.KeepsWays tree') (path : String) :
    tree'.startOf path = tree.startOf path := by
  unfold FileTree.startOf
  rw [keeps.start]

theorem follow_mono (keeps : tree.KeepsWays tree') (followed : tree.follow passing path = .ok arrival)
    (ends : ∀ target, tree'.at? arrival.place = some (.link target) →
      passing arrival.slash = false) :
    tree'.follow passing path = .ok arrival := by
  obtain ⟨followable, way⟩ := follow_eq_ok.mp followed
  rw [← keeps.startOf path] at way
  exact follow_eq_ok.mpr ⟨followable, way.mono keeps ends⟩

theorem follow_never_mono (keeps : tree.KeepsWays tree')
    (followed : tree.follow .never path = .ok arrival) : tree'.follow .never path = .ok arrival :=
  follow_mono keeps followed fun _ _ => rfl

theorem follow_change (followed : tree.follow passing path = .ok arrival)
    (goes : ∀ s, (s = true → arrival.slash = true) → passing s = true → passing' s = true)
    (ends : ∀ target, tree.at? arrival.place ≠ some (.link target)) :
    tree.follow passing' path = .ok arrival := by
  obtain ⟨followable, way⟩ := follow_eq_ok.mp followed
  exact follow_eq_ok.mpr ⟨followable, way.change goes ends⟩

theorem follow_never (followed : tree.follow passing path = .ok arrival) :
    tree.follow .never path = .ok arrival ∨
      ∃ named target, tree.follow .never path = .ok named ∧
        tree.at? named.place = some (.link target) := by
  obtain ⟨followable, way⟩ := follow_eq_ok.mp followed
  rcases way.never with same | ⟨named, target, names, found⟩
  · exact .inl (follow_eq_ok.mpr ⟨followable, same⟩)
  · exact .inr ⟨named, target, follow_eq_ok.mpr ⟨followable, names⟩, found⟩

theorem find_eq_ok {place : Place} {node : FileNode} :
    tree.find passing path = .ok (place, node) ↔
      ∃ arrival, tree.follow passing path = .ok arrival ∧ arrival.place = place ∧
        tree.at? place = some node ∧ (arrival.slash = true → node = .directory) := by
  unfold find
  cases followed : tree.follow passing path with
  | error fault => simp [bind, Except.bind]
  | ok arrival =>
    simp only [bind, Except.bind, Except.ok.injEq]
    cases found : tree.at? arrival.place with
    | none =>
      constructor
      · intro failed
        cases failed
      · rintro ⟨_, rfl, rfl, other, _⟩
        rw [found] at other
        cases other
    | some here =>
      dsimp only
      constructor
      · intro taken
        split at taken
        · cases taken
        · rename_i fits
          cases taken
          exact ⟨arrival, rfl, rfl, found, fun slash => by simpa [slash] using fits⟩
      · rintro ⟨_, rfl, rfl, same, fits⟩
        rw [found] at same
        cases same
        rw [if_neg (fun refused => refused.2 (fits refused.1))]
        rfl

theorem find_mono {place : Place} {node : FileNode} (keeps : tree.KeepsWays tree')
    (found : tree.find passing path = .ok (place, node)) (same : tree'.at? place = some node)
    (noLink : ∀ target, node ≠ .link target) : tree'.find passing path = .ok (place, node) := by
  obtain ⟨arrival, followed, rfl, _, fits⟩ := find_eq_ok.mp found
  refine find_eq_ok.mpr ⟨arrival, follow_mono keeps followed ?_, rfl, same, fits⟩
  intro target link
  rw [same] at link
  exact absurd (Option.some.inj link) (noLink target)

end AccountKeeper.FileTree
