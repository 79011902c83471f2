/-
Module: Bytemark.Proofs.FileTree
Purpose: What opening and writing a file does to the tree and to its contents.
Trusted boundary: none
Main exports: FileSystem.WellFormed, FileSystem.walk_append, FileSystem.create_eq_ok,
  FileSystem.create_of_file, FileSystem.SameNames, WriteMode.put, FileSystem.write_of_file
-/
import Bytemark.Files.FileSystem

namespace Bytemark

namespace FileSystem

/-! ### Looking up names -/

theorem lookUp_append (location : Location) (first second : List (Location × Node)) :
    lookUp location (first ++ second) = (lookUp location first).or (lookUp location second) := by
  induction first with
  | nil => rfl
  | cons entry rest inductionHypothesis =>
      rcases entry with ⟨place, node⟩
      simp only [List.cons_append, lookUp]
      split
      · rfl
      · exact inductionHypothesis

theorem mem_of_lookUp {location : Location} {entries : List (Location × Node)} {node : Node}
    (found : lookUp location entries = some node) : ∃ entry ∈ entries, entry.2 = node := by
  induction entries with
  | nil => cases found
  | cons entry rest inductionHypothesis =>
      rcases entry with ⟨place, other⟩
      simp only [lookUp] at found
      split at found
      · cases found
        exact ⟨_, List.mem_cons_self, rfl⟩
      · obtain ⟨entry, member, same⟩ := inductionHypothesis found
        exact ⟨entry, List.mem_cons_of_mem _ member, same⟩

/-- Names may be followed in two rows. -/
theorem walk_append (files : FileSystem) (location : Location) (node : Node)
    (first second : List String) :
    files.walk location node (first ++ second) =
      (files.walk location node first).bind fun reached =>
        files.walk reached.1 reached.2 second := by
  induction first generalizing location node with
  | nil => rfl
  | cons name rest inductionHypothesis =>
      simp only [List.cons_append, walk]
      split
      · rfl
      · split
        · exact inductionHypothesis location node
        · split
          · exact inductionHypothesis location.parent .directory
          · split
            · rfl
            · split
              · exact inductionHypothesis _ _
              · rfl

/-- Nodes that stay are found on the same ways. -/
theorem walk_of_kept {files other : FileSystem}
    (kept : ∀ place node, files.nodeAt place = some node → other.nodeAt place = some node)
    {location : Location} {node : Node} {names : List String} {reached : Location × Node}
    (walked : files.walk location node names = .ok reached) :
    other.walk location node names = .ok reached := by
  induction names generalizing location node with
  | nil => exact walked
  | cons name rest inductionHypothesis =>
      simp only [walk] at walked ⊢
      split at walked
      · cases walked
      · rename_i directory
        rw [if_neg directory]
        split at walked
        · rename_i dot
          rw [if_pos dot]
          exact inductionHypothesis walked
        · rename_i notDot
          rw [if_neg notDot]
          split at walked
          · rename_i dots
            rw [if_pos dots]
            exact inductionHypothesis walked
          · rename_i notDots
            rw [if_neg notDots]
            split at walked
            · cases walked
            · rename_i short
              rw [if_neg short]
              cases next : files.nodeAt (location.child name) with
              | none =>
                  rw [next] at walked
                  cases walked
              | some found =>
                  rw [next] at walked
                  rw [kept _ _ next]
                  exact inductionHypothesis walked

/-- A way from a directory ends at a directory or at something with a name. -/
theorem named_of_walk {files : FileSystem} {location place : Location} {node final : Node}
    {names : List String} (walked : files.walk location node names = .ok (place, final)) :
    final = node ∨ final = .directory ∨ ∃ entry ∈ files.entries, entry.2 = final := by
  induction names generalizing location node with
  | nil =>
      cases walked
      exact .inl rfl
  | cons name rest inductionHypothesis =>
      simp only [walk] at walked
      split at walked
      · cases walked
      · split at walked
        · exact inductionHypothesis walked
        · split at walked
          · rcases inductionHypothesis walked with directory | other
            · exact .inr (.inl directory)
            · exact .inr other
          · split at walked
            · cases walked
            · cases next : files.nodeAt (location.child name) with
              | none =>
                  rw [next] at walked
                  cases walked
              | some found =>
                  rw [next] at walked
                  rcases inductionHypothesis walked with rfl | other
                  · exact .inr (.inr (mem_of_lookUp next))
                  · exact .inr other

/-! ### Paths that lead somewhere -/

/-- What a path leads to depends on the names alone. -/
structure SameNames (files other : FileSystem) : Prop where
  entries : other.entries = files.entries
  workingDirectory : other.workingDirectory = files.workingDirectory
  count : other.contents.length = files.contents.length

theorem SameNames.refl (files : FileSystem) : SameNames files files := ⟨rfl, rfl, rfl⟩

theorem SameNames.trans {first second third : FileSystem} (before : SameNames first second)
    (after : SameNames second third) : SameNames first third :=
  ⟨after.entries.trans before.entries, after.workingDirectory.trans before.workingDirectory,
    after.count.trans before.count⟩

theorem SameNames.walk {files other : FileSystem} (same : SameNames files other)
    (location : Location) (node : Node) (names : List String) :
    other.walk location node names = files.walk location node names := by
  have nodes : other.nodeAt = files.nodeAt := by
    funext place
    rw [nodeAt, nodeAt, same.entries]
  induction names generalizing location node with
  | nil => rfl
  | cons name rest inductionHypothesis =>
      simp only [FileSystem.walk, nodes, inductionHypothesis]

theorem SameNames.find {files other : FileSystem} (same : SameNames files other)
    (path : String) : other.find path = files.find path := by
  unfold FileSystem.find start
  rw [same.workingDirectory]
  simp only [same.walk]

theorem exists_of_find {files : FileSystem} {path : String} {reached : Location × Node}
    (found : files.find path = .ok reached) : files.exists? path = true := by
  rw [exists?, found]

theorem exists_of_missing {files : FileSystem} {path : String}
    (missing : ∀ reached, files.find path ≠ .ok reached) : files.exists? path = false := by
  cases found : files.find path with
  | error cause => rw [exists?, found]
  | ok reached => exact absurd found (missing reached)

/-- No name leads to a content that there never was. -/
def WellFormed (files : FileSystem) : Prop :=
  ∀ entry ∈ files.entries, ∀ id, entry.2 = .file id → id < files.contents.length

theorem walk_of_find {files : FileSystem} {path : String} {location : Location} {node : Node}
    (found : files.find path = .ok (location, node)) :
    files.walk (files.start path) .directory (Path.names path) = .ok (location, node) := by
  unfold find at found
  cases proper : Path.check path with
  | error cause =>
      rw [proper] at found
      cases found
  | ok _ =>
      rw [proper] at found
      cases walked : files.walk (files.start path) .directory (Path.names path) with
      | error cause =>
          simp only [walked] at found
          cases found
      | ok reached =>
          simp only [walked, bind, Except.bind] at found
          split at found
          · cases found
          · exact found

theorem lt_of_find {files : FileSystem} (wellFormed : files.WellFormed) {path : String}
    {location : Location} {id : FileId} (found : files.find path = .ok (location, .file id)) :
    id < files.contents.length := by
  rcases named_of_walk (walk_of_find found) with impossible | impossible | ⟨entry, member, same⟩
  · cases impossible
  · cases impossible
  · exact wellFormed entry member id same

/-- The place of a last name is in the directory that the names before it lead to. -/
theorem walk_of_place {files : FileSystem} {path name : String} {directory : Location}
    (placed : files.place path = .ok (some (directory, name))) :
    ∃ above, Path.names path = above ++ [name] ∧
      files.walk (files.start path) .directory above = .ok (directory, .directory) ∧
      (name == ".") = false ∧ (name == "..") = false := by
  unfold place at placed
  cases last : (Path.names path).getLast? with
  | none =>
      rw [last] at placed
      cases placed
  | some final =>
      rw [last] at placed
      obtain ⟨above, row⟩ := List.getLast?_eq_some_iff.mp last
      rw [row, List.dropLast_concat] at placed
      cases walked : files.walk (files.start path) .directory above with
      | error cause =>
          simp only [walked] at placed
          cases placed
      | ok reached =>
          rcases reached with ⟨location, node⟩
          simp only [walked, bind, Except.bind] at placed
          split at placed
          · cases placed
          · rename_i isDirectory
            split at placed
            · cases placed
            · rename_i proper
              simp only [Bool.or_eq_true, not_or, Bool.not_eq_true] at proper
              have same : node = .directory := by simpa using isDirectory
              cases placed
              subst same
              exact ⟨above, row, walked, proper.1, proper.2⟩

/-- A path whose last name is a proper one leads to what that name stands for. -/
theorem find_of_walk {files : FileSystem} {path name : String} {directory : Location}
    {above : List String} (proper : Path.check path = .ok ())
    (row : Path.names path = above ++ [name])
    (walked : files.walk (files.start path) .directory above = .ok (directory, .directory))
    (notDot : (name == ".") = false) (notDots : (name == "..") = false)
    (short : ¬ Path.longestName < name.utf8ByteSize) (plain : Path.isSlashed path = false) :
    files.find path =
      match files.nodeAt (directory.child name) with
      | some node => .ok (directory.child name, node)
      | none => .error .notFound := by
  have whole : files.walk (files.start path) .directory (Path.names path) =
      files.walk directory .directory [name] := by
    rw [row, walk_append, walked]
    rfl
  unfold find
  rw [proper, whole, plain]
  simp only [walk, notDot, notDots, short, bind, Except.bind]
  cases files.nodeAt (directory.child name) <;> rfl

/-- A path that leads to a file has a last name, which is that of the file. -/
theorem place_of_find {files : FileSystem} {path : String} {location : Location} {id : FileId}
    (found : files.find path = .ok (location, .file id)) :
    Path.check path = .ok () ∧ Path.isSlashed path = false ∧
      ∃ directory name, files.place path = .ok (some (directory, name)) ∧
        files.slot directory name = .ok (.taken (.file id)) := by
  have walked := walk_of_find found
  have proper : Path.check path = .ok () := by
    cases checked : Path.check path with
    | ok _ => rfl
    | error cause =>
        rw [find, checked] at found
        cases found
  have plain : Path.isSlashed path = false := by
    rw [find, proper, walked] at found
    cases slashed : Path.isSlashed path with
    | false => rfl
    | true =>
        rw [slashed] at found
        cases found
  refine ⟨proper, plain, ?_⟩
  cases last : (Path.names path).getLast? with
  | none =>
      rw [List.getLast?_eq_none_iff.mp last] at walked
      cases walked
  | some name =>
      obtain ⟨above, row⟩ := List.getLast?_eq_some_iff.mp last
      rw [row, walk_append] at walked
      cases reached : files.walk (files.start path) .directory above with
      | error cause =>
          rw [reached] at walked
          cases walked
      | ok inside =>
          rcases inside with ⟨directory, node⟩
          simp only [reached, Except.bind, walk] at walked
          -- Dots lead to directories, so the last name is one that is looked up.
          split at walked
          · cases walked
          · rename_i isDirectory
            split at walked
            · cases walked
              exact absurd rfl isDirectory
            · split at walked
              · cases walked
              · rename_i notDot notDots
                split at walked
                · cases walked
                · rename_i short
                  cases taken : files.nodeAt (directory.child name) with
                  | none =>
                      rw [taken] at walked
                      cases walked
                  | some next =>
                      rw [taken] at walked
                      cases walked
                      refine ⟨directory, name, ?_, ?_⟩
                      · rw [place, last, row, List.dropLast_concat, reached]
                        simp [bind, Except.bind, isDirectory, notDot, notDots]
                      · rw [slot, if_neg short, taken]

/-! ### Opening a file from its start -/

/-- The tree with a name for a new file, which is empty. -/
def withFile (files : FileSystem) (location : Location) : FileSystem :=
  { files with
    entries := files.entries ++ [(location, .file files.contents.length)]
    contents := files.contents ++ [.empty] }

theorem nodeAt_withFile_of_some {files : FileSystem} {location place : Location} {node : Node}
    (found : files.nodeAt place = some node) :
    (files.withFile location).nodeAt place = some node := by
  unfold nodeAt at found ⊢
  split at found
  · rename_i root
    rw [if_pos root]
    exact found
  · rename_i named
    rw [if_neg named]
    change lookUp place (files.entries ++ _) = some node
    rw [lookUp_append, found]
    rfl

theorem nodeAt_withFile_child {files : FileSystem} {directory : Location} {name : String}
    (free : files.nodeAt (directory.child name) = none) :
    (files.withFile (directory.child name)).nodeAt (directory.child name) =
      some (.file files.contents.length) := by
  have missing : lookUp (directory.child name) files.entries = none := free
  change lookUp (directory.child name) (files.entries ++ [(directory.child name, _)]) = _
  rw [lookUp_append, missing]
  simp [lookUp]

/-- Everything that opening a file from its start can do: a file that is there
loses its content, a device stays what it is, and a name that is free gets a new
file. -/
theorem create_eq_ok {files created : FileSystem} {path : String} {handle : WriteHandle}
    (made : files.create path = .ok (handle, created)) :
    ∃ location,
      (∃ id, files.find path = .ok (location, .file id) ∧
        handle = ⟨.file id, .overwrite 0⟩ ∧ created = files.setContent id .empty) ∨
      (files.find path = .ok (location, .fullDevice) ∧
        handle = ⟨.fullDevice, .overwrite 0⟩ ∧ created = files) ∨
      (files.find path = .error .notFound ∧
        handle = ⟨.file files.contents.length, .overwrite 0⟩ ∧
        created = files.withFile location ∧
        created.find path = .ok (location, .file files.contents.length)) := by
  unfold create at made
  cases proper : Path.check path with
  | error cause =>
      rw [proper] at made
      cases made
  | ok _ =>
      cases placed : files.place path with
      | error cause =>
          simp only [proper, placed] at made
          cases made
      | ok place =>
          simp only [proper, placed, bind, Except.bind] at made
          cases place with
          | none => cases made
          | some inside =>
              rcases inside with ⟨directory, name⟩
              obtain ⟨above, row, walked, notDot, notDots⟩ := walk_of_place placed
              dsimp only at made
              split at made
              · cases made
              · rename_i plain
                rw [Bool.not_eq_true] at plain
                by_cases short : Path.longestName < name.utf8ByteSize
                · rw [slot, if_pos short] at made
                  cases made
                · have leads := find_of_walk proper row walked notDot notDots short plain
                  rw [slot, if_neg short] at made
                  refine ⟨directory.child name, ?_⟩
                  cases taken : files.nodeAt (directory.child name) with
                  | some node =>
                      rw [taken] at made leads
                      cases node with
                      | directory => cases made
                      | file id =>
                          cases made
                          exact .inl ⟨id, leads, rfl, rfl⟩
                      | fullDevice =>
                          cases made
                          exact .inr (.inl ⟨leads, rfl, rfl⟩)
                  | none =>
                      rw [taken] at made leads
                      cases made
                      refine .inr (.inr ⟨leads, rfl, rfl, ?_⟩)
                      have kept : ∀ place node, files.nodeAt place = some node →
                          (files.withFile (directory.child name)).nodeAt place = some node :=
                        fun _ _ => nodeAt_withFile_of_some
                      have walked' := walk_of_kept kept walked
                      have leads' := find_of_walk proper row walked' notDot notDots short plain
                      rw [nodeAt_withFile_child taken] at leads'
                      exact leads'

/-- A file that is there loses its content when it is opened from its start. -/
theorem create_of_file {files : FileSystem} {path : String} {location : Location} {id : FileId}
    (found : files.find path = .ok (location, .file id)) :
    files.create path = .ok (⟨.file id, .overwrite 0⟩, files.setContent id .empty) := by
  obtain ⟨proper, plain, directory, name, placed, taken⟩ := place_of_find found
  unfold create
  simp only [proper, placed, plain, taken, bind, Except.bind, Bool.false_eq_true, if_false]

/-! ### Contents -/

theorem content_setContent {files : FileSystem} {id : FileId}
    (present : id < files.contents.length) (content : Content) :
    (files.setContent id content).content id = content.octets := by
  simp [FileSystem.content, contentOf, setContent, present]

theorem sameNames_setContent (files : FileSystem) (id : FileId) (content : Content) :
    SameNames files (files.setContent id content) := ⟨rfl, rfl, List.length_set⟩

theorem content_withFile (files : FileSystem) (location : Location) :
    (files.withFile location).content files.contents.length = [] := by
  simp [FileSystem.content, contentOf, withFile]

theorem sameNames_write (files : FileSystem) (handle : WriteHandle) (octets : Octets) :
    SameNames files (files.write handle octets).2.2 := by
  rcases handle with ⟨node, mode⟩
  unfold write
  split
  · exact .refl files
  · cases node with
    | directory => exact .refl files
    | fullDevice => exact .refl files
    | file id => cases mode <;> exact sameNames_setContent files id _

end FileSystem

namespace WriteMode

/-- Where a handle writes after it wrote so many octets. -/
def advance : WriteMode → Nat → WriteMode
  | .append, _ => .append
  | .overwrite offset, amount => .overwrite (offset + amount)

/-- A content after octets were written to it. -/
def put : WriteMode → Octets → Octets → Octets
  | .append, content, octets => content ++ octets
  | .overwrite offset, content, octets =>
      content.take offset ++ octets ++ content.drop (offset + octets.length)

/-- Writing nothing changes nothing. -/
theorem put_nil (mode : WriteMode) (content : Octets) : mode.put content [] = content := by
  cases mode with
  | append => exact List.append_nil content
  | overwrite offset =>
      rw [put, List.append_nil, List.length_nil, Nat.add_zero, List.take_append_drop]

theorem advance_zero (mode : WriteMode) : mode.advance 0 = mode := by
  cases mode <;> rfl

theorem advance_advance (mode : WriteMode) (first second : Nat) :
    (mode.advance first).advance second = mode.advance (first + second) := by
  cases mode with
  | append => rfl
  | overwrite offset => exact congrArg WriteMode.overwrite (Nat.add_assoc offset first second)

/-- The handle does not stand behind the end. -/
def Within : WriteMode → Octets → Prop
  | .append, _ => True
  | .overwrite offset, content => offset ≤ content.length

end WriteMode

namespace FileSystem

/-- Writing to a file never fails and leaves the names as they are. -/
theorem write_of_file {files : FileSystem} {id : FileId} {mode : WriteMode}
    (present : id < files.contents.length) (within : mode.Within (files.content id))
    (octets : Octets) :
    ∃ after, files.write ⟨.file id, mode⟩ octets =
        (.ok (), ⟨.file id, mode.advance octets.length⟩, after) ∧
      after.content id = mode.put (files.content id) octets ∧ SameNames files after := by
  have names := sameNames_write files ⟨.file id, mode⟩ octets
  unfold write at names ⊢
  cases octets with
  | nil =>
      rw [List.length_nil, WriteMode.advance_zero, WriteMode.put_nil]
      exact ⟨files, rfl, rfl, .refl files⟩
  | cons octet rest =>
      cases mode with
      | append =>
          refine ⟨_, rfl, ?_, names⟩
          rw [content_setContent present, Content.octets_append]
          rfl
      | overwrite offset =>
          have gap : offset - (files.content id).length = 0 := Nat.sub_eq_zero_of_le within
          refine ⟨_, rfl, ?_, names⟩
          rw [content_setContent present, Content.octets_overwrite, Content.splice]
          change (files.content id).take offset ++
            List.replicate (offset - (files.content id).length) 0 ++ _ ++ _ = _
          rw [gap, List.replicate_zero, List.append_nil]
          rfl

/-! ### Well-formed trees -/

theorem WellFormed.of_sameNames {files other : FileSystem} (wellFormed : files.WellFormed)
    (same : SameNames files other) : other.WellFormed := by
  intro entry member id leads
  rw [same.entries] at member
  rw [same.count]
  exact wellFormed entry member id leads

theorem wellFormed_empty (names : List String) : (empty names).WellFormed := by
  intro entry member id leads
  simp only [empty, List.mem_append, List.mem_map, List.mem_cons, List.not_mem_nil,
    or_false] at member
  rcases member with ⟨depth, -, rfl⟩ | rfl | rfl <;> cases leads

theorem WellFormed.withFile {files : FileSystem} (wellFormed : files.WellFormed)
    (location : Location) : (files.withFile location).WellFormed := by
  intro entry member id leads
  change id < (files.contents ++ [Content.empty]).length
  rw [List.length_append, List.length_singleton]
  rcases List.mem_append.mp member with old | new
  · exact Nat.lt_succ_of_lt (wellFormed entry old id leads)
  · rw [List.mem_singleton.mp new] at leads
    cases leads
    exact Nat.lt_succ_self _

theorem WellFormed.create {files created : FileSystem} (wellFormed : files.WellFormed)
    {path : String} {handle : WriteHandle}
    (made : files.create path = .ok (handle, created)) : created.WellFormed := by
  obtain ⟨location, ⟨id, -, -, rfl⟩ | ⟨-, -, rfl⟩ | ⟨-, -, rfl, -⟩⟩ := create_eq_ok made
  · exact wellFormed.of_sameNames (sameNames_setContent files id _)
  · exact wellFormed
  · exact wellFormed.withFile location

end FileSystem

end Bytemark
