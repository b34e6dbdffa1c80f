import Mathlib.Tactic
import ShopSync.FileTree
import ShopSync.Proofs.Dialogue
import ShopSync.Proofs.Outcome

/-!
What is written to files.

To write a file changes what stands at the end of one way and nothing that stood on the way to it,
so the path leads there again and the file holds what was written.  That is all that is asked of a
file system besides its operations, so trees are one.  `withFiles` puts a file system into a world;
where nothing is written the files stay as they are.
-/

namespace ShopSync

namespace FileTree

variable {tree after : FileTree} {path content : String} {place folder way : List String}

/-- The tree with the content of a file at a place. -/
def put (tree : FileTree) (place : List String) (content : String) : FileTree :=
  { tree with files := Keyed.put place content tree.files }

/-- Only what stands at the place is another. -/
theorem node?_put (hplace : tree.node? place ≠ some .folder) (way : List String) :
    (tree.put place content).node? way =
      if way = place then some (.file content) else tree.node? way := by
  have hno : (place.isEmpty || tree.folders.contains place) = false := by
    refine Bool.eq_false_iff.2 fun hfolder => hplace ?_
    rw [node?, if_pos hfolder]
  by_cases hway : way = place
  · rw [if_pos hway, hway]
    change (if (place.isEmpty || tree.folders.contains place) = true then _ else _) = _
    rw [hno, put, Keyed.get?_put, if_pos rfl]
    rfl
  · rw [if_neg hway]
    change (if (way.isEmpty || tree.folders.contains way) = true then _ else _) =
      (if (way.isEmpty || tree.folders.contains way) = true then _ else _)
    rw [put, Keyed.get?_put, if_neg (Ne.symm hway)]

/-- A step that could be made can be made still: it leads out of a folder, and no folder is
overwritten. -/
theorem step_put (hplace : tree.node? place ≠ some .folder) {part : String}
    (h : tree.step folder part = .ok way) :
    (tree.put place content).step folder part = .ok way := by
  have hfolder : tree.node? folder = some .folder := by
    unfold step at h
    cases hnode : tree.node? folder with
    | none => rw [hnode] at h; cases h
    | some node =>
      cases node with
      | folder => rfl
      | file content => rw [hnode] at h; cases h
  have hne : folder ≠ place := by
    rintro rfl
    exact hplace hfolder
  have hsame : (tree.put place content).node? folder = tree.node? folder := by
    rw [node?_put hplace, if_neg hne]
  unfold step at h ⊢
  rw [hsame]
  exact h

theorem foldlM_step_put (hplace : tree.node? place ≠ some .folder) {parts : List String}
    (h : parts.foldlM tree.step folder = .ok way) :
    parts.foldlM (tree.put place content).step folder = .ok way := by
  induction parts generalizing folder with
  | nil => exact h
  | cons part rest ih =>
    rw [List.foldlM_cons] at h ⊢
    cases hstep : tree.step folder part with
    | error e => rw [hstep] at h; cases h
    | ok next =>
      rw [hstep] at h
      rw [step_put hplace hstep]
      exact ih h

theorem step_point (h : tree.step folder "." = .ok way) : way = folder := by
  unfold step at h
  split at h
  · cases h
  · cases h
  · rw [if_pos rfl] at h
    exact (Except.ok.inj h).symm

/-- What a write does: it puts the content at the end of the way of the path, where no folder is. -/
theorem exists_place_of_write (h : tree.write path content = .ok after) :
    ∃ place, tree.way path = .ok place ∧ tree.node? place ≠ some .folder ∧
      after = tree.put place content := by
  unfold write at h
  obtain ⟨u, hcheck, h⟩ := bind_eq_ok_iff.1 h
  cases hlast : (parts path).getLast? with
  | none => rw [hlast] at h; cases h
  | some name =>
    rw [hlast] at h
    obtain ⟨folder, hfolder, h⟩ := bind_eq_ok_iff.1 h
    obtain ⟨same, hsame, h⟩ := bind_eq_ok_iff.1 h
    rw [step_point hsame] at h
    by_cases hslash : endsAsFolder path = true
    · rw [if_pos hslash] at h
      cases h
    rw [if_neg hslash] at h
    obtain ⟨place, hplace, h⟩ := bind_eq_ok_iff.1 h
    by_cases hnode : tree.node? place = some .folder
    · rw [if_pos hnode] at h
      cases h
    rw [if_neg hnode] at h
    refine ⟨place, ?_, hnode, (Except.ok.inj h).symm⟩
    -- the way of the path is that of its folder and one step more
    have hparts : parts path = (parts path).dropLast ++ [name] :=
      (List.dropLast_append_getLast? name hlast).symm
    have hway : (parts path).foldlM tree.step (tree.start path) = .ok place := by
      rw [hparts, List.foldlM_append, hfolder]
      change (tree.step folder name >>= pure) = _
      rw [hplace]
      rfl
    unfold FileTree.way
    rw [hcheck, if_neg hslash]
    change (parts path ++ []).foldlM tree.step (tree.start path) = _
    rw [List.append_nil, hway]

theorem way_put (hplace : tree.node? place ≠ some .folder) (h : tree.way path = .ok way) :
    (tree.put place content).way path = .ok way := by
  unfold FileTree.way at h ⊢
  obtain ⟨u, hcheck, h⟩ := bind_eq_ok_iff.1 h
  rw [hcheck]
  exact foldlM_step_put hplace h

theorem read_of_write (h : tree.write path content = .ok after) :
    after.read path = .ok content := by
  obtain ⟨place, hway, hplace, rfl⟩ := exists_place_of_write h
  unfold read
  rw [way_put hplace hway]
  dsimp only [bind, Except.bind]
  rw [node?_put hplace, if_pos rfl]

end FileTree

/-! ### Worlds with files -/

/-- A file system: what there is, what can be read, and what a write leaves.  A file that was
written holds what was written. -/
structure FileSystem (φ : Type) where
  has : φ → (path : String) → Bool
  read : φ → (path : String) → Except FileError String
  write : φ → (path content : String) → Except FileError φ
  read_of_write : ∀ {files path content after}, write files path content = .ok after →
    read after path = .ok content

/-- Trees as a file system. -/
def FileTree.system : FileSystem FileTree where
  has := has
  read := read
  write := write
  read_of_write := read_of_write

/-- A system with one file, which is there once it was written. -/
def FileSystem.single (name : String) : FileSystem (Option String) where
  has file path := decide (path = name) && file.isSome
  read file path := if path = name then file.elim (.error .missing) .ok else .error .missing
  write _ path content := if path = name then .ok (some content) else .error .denied
  read_of_write := by
    intro file path content after h
    by_cases hname : path = name
    · rw [if_pos hname] at h ⊢
      cases h
      rfl
    · rw [if_neg hname] at h
      cases h

/-- The world with files: what is about files is answered by a file system, and the rest as it
was. -/
def World.withFiles (outside : World σ) (system : FileSystem φ) : World (φ × σ) where
  answer
    | .fileExists path, (files, s) => (system.has files path, files, s)
    | .readFile path, (files, s) => (system.read files path, files, s)
    | .writeFile path content, (files, s) =>
      match system.write files path content with
      | .ok after => (.ok (), after, s)
      | .error e => (.error e, files, s)
    | query, (files, s) =>
      let (answer, s) := outside.answer query s
      (answer, files, s)

/-- As long as nothing is written, the files stay as they are. -/
theorem Dialogue.files_run_withFiles {outside : World σ} {system : FileSystem φ} {d : Dialogue α}
    {files : φ} {s : σ}
    (h : ∀ q ∈ d.queries (outside.withFiles system) (files, s), q.writesFile = false) :
    (d.run (outside.withFiles system) (files, s)).2.1 = files := by
  induction d generalizing s with
  | done a => rfl
  | ask q next ih =>
    obtain ⟨hq, hrest⟩ := List.forall_mem_cons.1 h
    cases q with
    | writeFile path content => cases hq
    | _ => exact ih _ hrest

end ShopSync
