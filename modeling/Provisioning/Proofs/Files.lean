import Provisioning.FileTree

/-! # Adding to a file

A path that can be read or added to names a place, and what is added to a file stands behind what
could be read from it before. Adding changes only the place that it is made at, and that is never a
directory; so the path leads to the same place afterwards. An append that fails leaves every file as
it was.
-/

namespace Provisioning.FileTree

variable {tree after : FileTree} {path : String} {place other : Place} {bytes : Bytes}

/-- The path is that of a file at the place, whether or not there is one. -/
inductive Names (tree : FileTree) (path : String) : Place → Prop where
  | intro {route : Route} {parent : Place} {name : String} (routed : tree.route path = .ok route)
      (walked : tree.walk route.origin route.parents = .ok parent) (named : route.name = some name)
      (file : route.endsInDirectory = false) (short : name.utf8ByteSize ≤ maxNameLength)
      (bare : route.slash = false) : Names tree path (parent ++ [name])

theorem Names.unique (left : tree.Names path place) (right : tree.Names path other) :
    place = other := by
  obtain ⟨routed, walked, named, _, _, _⟩ := left
  obtain ⟨routed', walked', named', _, _, _⟩ := right
  rw [routed] at routed'
  cases routed'
  rw [walked] at walked'
  cases walked'
  rw [named] at named'
  cases named'
  rfl

private theorem node?_put_self (nonempty : place ≠ []) (node : Node) :
    (tree.put place node).node? place = some node := by
  simp [node?, put, nonempty]

private theorem node?_put_of_ne (different : other ≠ place) (node : Node) :
    (tree.put place node).node? other = tree.node? other := by
  have apart : (other == place) = false := beq_eq_false_iff_ne.mpr different
  have kept (nodes : List (Place × Node)) :
      (nodes.filter (·.1 != place)).lookup other = nodes.lookup other := by
    induction nodes with
    | nil => rfl
    | cons entry rest ih =>
      obtain ⟨start, stands⟩ := entry
      by_cases here : start = place
      · simp [List.lookup_cons, here, apart, ih]
      · simp [List.lookup_cons, here, ih]
  simp [node?, FileTree.put, List.lookup_cons, apart, kept]

/-- Directories are where they were when something that is none has been put in its place. -/
theorem walk_put {start parent : Place} {parts : List String} (node : Node)
    (file : tree.node? place ≠ some .directory) (walked : tree.walk start parts = .ok parent) :
    (tree.put place node).walk start parts = .ok parent := by
  induction parts generalizing start with
  | nil => exact walked
  | cons name rest ih =>
    unfold walk at walked ⊢
    split at walked
    · rename_i stay
      rw [if_pos stay]
      exact ih walked
    · rename_i go
      rw [if_neg go]
      split at walked
      · rename_i up
        rw [if_pos up]
        exact ih walked
      · rename_i down
        rw [if_neg down]
        split at walked
        · cases walked
        · rename_i short
          rw [if_neg short]
          split at walked
          · cases walked
          · cases walked
          · rename_i directory
            have different : start ++ [name] ≠ place := by
              rintro rfl
              exact file directory
            rw [node?_put_of_ne different, directory]
            exact ih walked

theorem Names.put (named : tree.Names path place) (node : Node)
    (file : tree.node? place ≠ some .directory) : (tree.put place node).Names path place := by
  obtain ⟨routed, walked, name, ends, short, bare⟩ := named
  exact ⟨routed, walk_put node file walked, name, ends, short, bare⟩

theorem read_eq_ok_iff :
    tree.read path = .ok bytes ↔
      ∃ place, tree.Names path place ∧ tree.node? place = some (.file bytes) := by
  constructor
  · intro found
    simp only [read, bind, Except.bind] at found
    split at found
    · cases found
    · rename_i route routed
      split at found
      · cases found
      · rename_i parent walked
        split at found
        · cases found
        · rename_i name named
          split at found
          · cases found
          · rename_i file
            split at found
            · cases found
            · rename_i short
              split at found
              · cases found
              · cases found
              · rename_i former stands
                split at found
                · cases found
                · rename_i bare
                  cases found
                  exact ⟨_, ⟨routed, walked, named, Bool.eq_false_iff.mpr file,
                    Nat.le_of_not_lt short, Bool.eq_false_iff.mpr bare⟩, stands⟩
  · rintro ⟨place, ⟨routed, walked, named, file, short, bare⟩, stands⟩
    simp [read, bind, Except.bind, routed, walked, named, file, bare, stands, Nat.not_lt.mpr short]

theorem extend_eq_ok_iff :
    tree.extend path bytes = .ok after ↔
      ∃ place, tree.Names path place ∧
        (tree.node? place = none ∧ after = tree.put place (.file bytes) ∨
          ∃ former, tree.node? place = some (.file former) ∧
            after = tree.put place (.file (former ++ bytes))) := by
  constructor
  · intro added
    simp only [extend, bind, Except.bind] at added
    split at added
    · cases added
    · rename_i route routed
      split at added
      · cases added
      · rename_i parent walked
        split at added
        · cases added
        · rename_i name named
          split at added
          · cases added
          · rename_i file
            simp only [Bool.or_eq_true, not_or, Bool.not_eq_true] at file
            split at added
            · cases added
            · rename_i short
              have names : tree.Names path (parent ++ [name]) :=
                ⟨routed, walked, named, file.1, Nat.le_of_not_lt short, file.2⟩
              split at added
              · rename_i absent
                cases added
                exact ⟨_, names, .inl ⟨absent, rfl⟩⟩
              · cases added
              · rename_i former stands
                cases added
                exact ⟨_, names, .inr ⟨former, stands, rfl⟩⟩
  · rintro ⟨place, ⟨routed, walked, named, file, short, bare⟩, added⟩
    simp only [extend, bind, Except.bind, routed, walked, named, file, bare, Bool.or_self,
      Bool.false_eq_true, if_false, Nat.not_lt.mpr short]
    rcases added with ⟨absent, rfl⟩ | ⟨former, stands, rfl⟩
    · rw [absent]
    · rw [stands]

theorem Names.contents_eq (names : tree.Names path place)
    (stands : tree.node? place = some (.file bytes)) : tree.contents path = bytes := by
  rw [contents, read_eq_ok_iff.mpr ⟨place, names, stands⟩]

theorem Names.contents_of_absent (names : tree.Names path place)
    (absent : tree.node? place = none) : tree.contents path = [] := by
  unfold contents
  split
  · rename_i found
    obtain ⟨other, otherNames, stands⟩ := read_eq_ok_iff.mp found
    rw [← names.unique otherNames, absent] at stands
    cases stands
  · rfl

theorem contents_extend (extended : tree.extend path bytes = .ok after) :
    after.contents path = tree.contents path ++ bytes := by
  obtain ⟨place, names, added⟩ := extend_eq_ok_iff.mp extended
  have nonempty : place ≠ [] := by
    cases names
    simp
  rcases added with ⟨absent, rfl⟩ | ⟨former, stands, rfl⟩
  · have file : tree.node? place ≠ some .directory := by simp [absent]
    have nothing : tree.contents path = [] := names.contents_of_absent absent
    rw [(names.put _ file).contents_eq (node?_put_self nonempty _), nothing, List.nil_append]
  · have file : tree.node? place ≠ some .directory := by simp [stands]
    rw [(names.put _ file).contents_eq (node?_put_self nonempty _), names.contents_eq stands]

theorem walk_appends (tree : FileTree) (appends : List (Option IoError)) (place : Place)
    (parts : List String) :
    ({ tree with appends } : FileTree).walk place parts = tree.walk place parts := by
  have node (here : Place) : ({ tree with appends } : FileTree).node? here = tree.node? here := rfl
  induction parts generalizing place with
  | nil => rfl
  | cons name rest ih => simp only [walk, node, ih]

/-- What the host will make of appends shows in no file. -/
theorem contents_appends (tree : FileTree) (appends : List (Option IoError)) (path : String) :
    ({ tree with appends } : FileTree).contents path = tree.contents path := by
  have same : ({ tree with appends } : FileTree).read path = tree.read path := by
    unfold read
    simp only [walk_appends]
    rfl
  rw [contents, same, contents]

theorem contents_tried (tree : FileTree) (path : String) :
    tree.tried.contents path = tree.contents path :=
  tree.contents_appends _ path

/-- What is added to a file stands behind what could be read before. -/
theorem contents_append (appended : tree.append path bytes = .ok after) :
    after.contents path = tree.contents path ++ bytes := by
  have extended : (tree.extend path bytes).map tried = .ok after := by
    unfold append at appended
    split at appended
    · cases appended
    · exact appended
    · exact appended
  cases result : tree.extend path bytes with
  | error error =>
    rw [result] at extended
    cases extended
  | ok longer =>
    rw [result] at extended
    cases extended
    rw [contents_tried, contents_extend result]

/-! ## The way to a file -/

theorem node?_makeDirectories {start : Place} {parts : List String}
    (stands : tree.node? place = some .directory) :
    (tree.makeDirectories start parts).node? place = some .directory := by
  induction parts generalizing tree start with
  | nil => exact stands
  | cons name rest ih =>
    simp only [makeDirectories]
    split
    · exact ih stands
    · split
      · exact ih stands
      · split
        · exact ih stands
        · rename_i absent
          apply ih
          rw [node?_put_of_ne _ .directory]
          · exact stands
          · rintro rfl
            simp [stands] at absent

/-- Directories that have been made can be followed, if no file is in the way. -/
theorem walk_makeDirectories {start : Place} {parts : List String}
    (free : ∀ place contents, tree.node? place ≠ some (.file contents))
    (short : ∀ name ∈ parts, name.utf8ByteSize ≤ maxNameLength) :
    ∃ parent, (tree.makeDirectories start parts).walk start parts = .ok parent := by
  induction parts generalizing tree start with
  | nil => exact ⟨start, rfl⟩
  | cons name rest ih =>
    have later (name : String) (member : name ∈ rest) : name.utf8ByteSize ≤ maxNameLength :=
      short name (List.mem_cons_of_mem _ member)
    simp only [makeDirectories, walk]
    split
    · exact ih free later
    · split
      · exact ih free later
      · rw [if_neg (Nat.not_lt.mpr (short name List.mem_cons_self))]
        have here : start ++ [name] ≠ [] := by simp
        cases stands : tree.node? (start ++ [name]) with
        | none =>
          rw [Option.isSome_none, if_neg Bool.false_ne_true,
            node?_makeDirectories (node?_put_self here .directory)]
          apply ih _ later
          intro place contents
          by_cases same : place = start ++ [name]
          · subst same
            simp [node?_put_self here]
          · rw [node?_put_of_ne same]
            exact free place contents
        | some node =>
          cases node with
          | file contents => exact absurd stands (free _ _)
          | directory =>
            rw [Option.isSome_some, if_pos rfl, node?_makeDirectories stands]
            exact ih free later

/-- Once its way has been made, a path can be followed up to its last part. -/
theorem walk_withWay {route : Route} (routed : tree.route path = .ok route)
    (free : ∀ place contents, tree.node? place ≠ some (.file contents))
    (short : ∀ name ∈ route.parents, name.utf8ByteSize ≤ maxNameLength) :
    ∃ parent, (withWay path tree).walk route.origin route.parents = .ok parent := by
  rw [withWay, routed]
  exact walk_makeDirectories free short

end Provisioning.FileTree
