import ModuleClosure.Proofs.FileTree
import ModuleClosure.Source.Clones

/-!
# Transient directories

A fetch from an address works in a transient directory of the work directory. Its name is not taken
there. Of what git leaves in it only the description file is read, and after every outcome it is
removed with all that is in it.
-/
namespace ModuleClosure.Source.Clones

variable {c : Clones} {programs : Git.Programs} {name address : String} {s : State}
  {disk : Disk} {spot taken : List String}

theorem le_foldl_length (taken : List String) (k : Nat) :
    k ≤ taken.foldl (fun n name => n + name.length) k := by
  induction taken generalizing k with
  | nil => exact Nat.le_refl k
  | cons other taken ih =>
    rw [List.foldl_cons]
    have h := ih (k + other.length)
    omega

theorem length_add_le_foldl (h : name ∈ taken) (k : Nat) :
    name.length + k ≤ taken.foldl (fun n name => n + name.length) k := by
  induction taken generalizing k with
  | nil => cases h
  | cons other taken ih =>
    rw [List.foldl_cons]
    rcases List.mem_cons.mp h with rfl | h
    · have hrest := le_foldl_length taken (k + name.length)
      omega
    · have hrest := ih h (k + other.length)
      omega

/-- The name of a transient directory is new. -/
theorem transientName_not_mem (taken : List String) : transientName taken ∉ taken := by
  rw [transientName]
  split
  · intro hmem
    have hlong := length_add_le_foldl hmem 1
    have hstars (n : Nat) : (String.ofList (List.replicate n '*')).length = n := by simp
    rw [String.length_append, hstars] at hlong
    omega
  · assumption

theorem transientName_ne_empty (taken : List String) : transientName taken ≠ "" := by
  rw [transientName]
  split <;> simp [← String.toList_inj]

/-- The disk with the work directory made, and the entry names that lead to it. -/
def workPlace (c : Clones) (disk : Disk) : Disk × Except FileFault (List String) :=
  let (disk, made) := disk.makeDirectories c.workdir
  (disk, made.bind fun () => disk.spotOf c.workdir)

/-- The name of the transient directory below a place. -/
def entryAt (disk : Disk) (spot : List String) : String :=
  transientName (((disk.root.find? spot).map FileTree.entryNames).getD [])

theorem entryAt_not_mem {t : FileTree} (h : disk.root.find? spot = some t) :
    entryAt disk spot ∉ t.entryNames := by
  rw [entryAt, h]
  exact transientName_not_mem _

/-- The path of the transient directory. -/
def transientPath (c : Clones) (disk : Disk) (spot : List String) : Disk.Path :=
  c.workdir.join [entryAt disk spot]

/-- What comes of the requests for a module in the transient directory. -/
def attempt (c : Clones) (programs : Git.Programs) (name address : String) (disk : Disk)
    (spot : List String) : Attempt :=
  c.give programs name .empty 0
    (requestsFor (c.transientPath disk spot).text (spot ++ [entryAt disk spot]) address name)

/-- The disk after a transient directory was made and removed. -/
def swept (disk : Disk) (spot : List String) : Disk :=
  let place := spot ++ [entryAt disk spot]
  { disk with root := (disk.root.put .empty place).remove place }

/-- A fetch leaves nothing of the transient directory, whatever came into it. -/
theorem fetchFrom_eq (c : Clones) (programs : Git.Programs) (name address : String) (disk : Disk)
    (spot : List String) (requests : List Git.Request) :
    c.fetchFrom programs name address disk spot requests =
      { outcome := ((c.attempt programs name address disk spot).finish name).1
        notices := .fetchBegun name address ::
          ((c.attempt programs name address disk spot).finish name).2
        state := ⟨swept disk spot,
          requests ++ (c.attempt programs name address disk spot).requests⟩ } := by
  -- What git left takes the place of the empty directory, and that place is removed.
  have hplace : spot ++ [entryAt disk spot] ≠ [] := by simp
  have hroot (t : FileTree) : ((disk.root.put .empty (spot ++ [entryAt disk spot])).put t
      (spot ++ [entryAt disk spot])).remove (spot ++ [entryAt disk spot]) =
      (disk.root.put .empty (spot ++ [entryAt disk spot])).remove
        (spot ++ [entryAt disk spot]) := by
    rw [FileTree.put_put, FileTree.remove_put hplace]
  rw [swept, ← hroot (c.attempt programs name address disk spot).tree]
  rfl

theorem workPlace_eq_iff {before : Disk} {result : Except FileFault (List String)} :
    c.workPlace before = (disk, result) ↔ ∃ made,
      before.makeDirectories c.workdir = (disk, made) ∧
        (made.bind fun () => disk.spotOf c.workdir) = result := by
  cases hmade : before.makeDirectories c.workdir with
  | mk after made =>
    rw [workPlace, hmade]
    constructor
    · rintro ⟨⟩
      exact ⟨made, rfl, rfl⟩
    · rintro ⟨made, ⟨⟩, rfl⟩
      rfl

section Fetch

variable (hplain : isPlain name = true) (haddress : c.book.resolve c.hints name = .ok address)
include hplain haddress

theorem fetch_of_unplaced {fault : FileFault} (h : c.workPlace s.disk = (disk, .error fault)) :
    c.fetch programs name s =
      { outcome := .error (.files fault), notices := [.fetchBegun name address]
        state := { s with disk } } := by
  obtain ⟨made, hmade, hspot⟩ := workPlace_eq_iff.mp h
  simp only [fetch, if_pos hplain, haddress, hmade, hspot]

theorem fetch_of_placed (h : c.workPlace s.disk = (disk, .ok spot)) :
    c.fetch programs name s = c.fetchFrom programs name address disk spot s.requests := by
  obtain ⟨made, hmade, hspot⟩ := workPlace_eq_iff.mp h
  simp only [fetch, if_pos hplain, haddress, hmade, hspot]

end Fetch

/-- Two attempts that git ended alike, and after which the same stands at a path. -/
structure Attempt.AgreeAt (path : List String) (a b : Attempt) : Prop where
  outcome : a.outcome = b.outcome
  requests : a.requests = b.requests
  notices : a.notices = b.notices
  found : a.tree.find? path = b.tree.find? path

theorem Attempt.AgreeAt.finish {a b : Attempt} (h : a.AgreeAt [name, fileName] b) :
    a.finish name = b.finish name := by
  rw [Attempt.finish, Attempt.finish, readClone, readClone, h.outcome, h.notices, h.found]

end ModuleClosure.Source.Clones
