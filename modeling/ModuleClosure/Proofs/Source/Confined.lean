import ModuleClosure.Proofs.AddressBook
import ModuleClosure.Proofs.Source.Clones
import ModuleClosure.Proofs.Source.Layout
import ModuleClosure.Proofs.Source.Transient

/-!
# Names stay below the root

The name of a module is a text from outside. A fetch either refuses it and touches nothing, or every
path it makes from it goes on from the root, or from the transient directory, by one ordinary
component, and at most to the description file behind that. What is left in the transient directory
is read there only, and nothing of it stays.
-/
namespace ModuleClosure

namespace Source
open Disk

variable {disk disk' : Disk} {root : Disk.Path} {paths : List Disk.Path}
  {name address entry : String} {spot : List String}

/-- A path that goes on from a base by one ordinary component which is made from a name, and at most
to the description file behind it. -/
def IsBelow (base : Disk.Path) (name : String) (path : Disk.Path) : Prop :=
  ∃ part, IsOrdinary part ∧ (part = name ∨ part = name ++ ".module") ∧
    (path.components = base.components ++ [part] ∨
      path.components = base.components ++ [part, fileName])

section Search

/-- A search refuses a name whatever the disk. Or its paths, which are those that the name gives as
text, are below the root, and nothing else of the disk matters to it. -/
inductive SearchConfined (root : Disk.Path) (name : String) : Prop
  | refused (h : ∀ disk, lookUp disk root name = (.error (.noAddress name), [.nameRefused name]))
  | below
      (hjoined : candidates root name =
        [(root.joinText name).joinText fileName, root.joinText (name ++ ".module")])
      (hbelow : ∀ path ∈ candidates root name, IsBelow root name path)
      (hreads : ∀ disk disk', (∀ path ∈ candidates root name, disk.find path = disk'.find path) →
        lookUp disk root name = lookUp disk' root name)

theorem readFirst_congr (h : ∀ path ∈ paths, disk.find path = disk'.find path) :
    readFirst disk name paths = readFirst disk' name paths := by
  induction paths with
  | nil => rfl
  | cons path paths ih =>
    obtain ⟨hpath, hpaths⟩ := List.forall_mem_cons.mp h
    rw [readFirst, readFirst, exists?, exists?, Description.ofFile, Description.ofFile, readText,
      readText, hpath, ih hpaths]

theorem candidates_eq_joinText (h : IsOrdinary name) (root : Disk.Path) : candidates root name =
    [(root.joinText name).joinText fileName, root.joinText (name ++ ".module")] := by
  rw [Path.joinText_of_isOrdinary h, Path.joinText_of_isOrdinary isOrdinary_fileName,
    Path.joinText_of_isOrdinary (isOrdinary_moduleFile h), Path.join_join h.ne_empty, candidates]

theorem isBelow_of_mem_candidates (h : IsOrdinary name) {path : Disk.Path}
    (hpath : path ∈ candidates root name) : IsBelow root name path := by
  have hflat := isOrdinary_moduleFile h
  rcases List.mem_pair.mp hpath with rfl | rfl
  · refine ⟨name, h, .inl rfl, .inr (Path.components_join ?_)⟩
    simpa using ⟨h, isOrdinary_fileName⟩
  · refine ⟨name ++ ".module", hflat, .inr rfl, .inl (Path.components_join ?_)⟩
    simpa using hflat

theorem searchConfined (root : Disk.Path) (name : String) : SearchConfined root name := by
  by_cases hplain : isPlain name = true
  · have hname := isOrdinary_of_isPlain hplain
    refine .below (candidates_eq_joinText hname root)
      (fun path hpath => isBelow_of_mem_candidates hname hpath) fun disk disk' h => ?_
    rw [lookUp, lookUp, readFirst_congr h]
  · refine .refused fun disk => ?_
    rw [lookUp, if_neg hplain]

end Search

namespace Clones

variable {c : Clones} {s : State}

/-- The words of requests that no name goes into. -/
def fixedWords (address : String) : List String :=
  ["clone", "-n", "--depth", "1", address, "checkout", "HEAD", fileName]

/-- The path of a clone: what joining a name to the transient directory gives, which is below it also
when it is read again from its text. -/
def IsClonePath (transient : Disk.Path) (name text : String) : Prop :=
  text = (transient.joinText name).text ∧ IsBelow (.ofText transient.text) name (.ofText text)

/-- A request is given in the transient directory or in the clone, and the only word of it that a
name goes into is the path of the clone. -/
structure RequestConfined (transient : Disk.Path) (name address : String) (r : Git.Request) :
    Prop where
  within : r.within = [] ∨ r.within = [name]
  directory : r.directory = transient.text ∨ IsClonePath transient name r.directory
  arguments : ∀ a ∈ r.arguments, a ∈ fixedWords address ∨ IsClonePath transient name a

theorem isClonePath (h : IsOrdinary name) (hentry : entry ≠ "") (p : Disk.Path) :
    IsClonePath (p.join [entry]) name ((p.join [entry]).text ++ "/" ++ name) := by
  have hcomponents := Path.components_ofText_append (Path.text_join_ne_empty hentry p) h
  refine ⟨?_, name, h, .inl rfl, .inl hcomponents⟩
  rw [Path.joinText_of_isOrdinary h, Path.text_join_join hentry]

theorem requestConfined (h : IsOrdinary name) (hentry : entry ≠ "") {p : Disk.Path}
    {r : Git.Request} (hr : r ∈ requestsFor (p.join [entry]).text spot address name) :
    RequestConfined (p.join [entry]) name address r := by
  have hclone := isClonePath h hentry p
  rcases List.mem_pair.mp hr with rfl | rfl
  · refine ⟨.inl rfl, .inl (by simp [Git.Request.directory]), ?_⟩
    simp [fixedWords, hclone]
  · refine ⟨.inr rfl, .inr ?_, ?_⟩
    · simpa [Git.Request.directory] using hclone
    · simp [fixedWords]

theorem give_congr {programs programs' : Git.Programs} {rs : List Git.Request}
    (h : ∀ r ∈ rs, programs c.program r = programs' c.program r) (tree : FileTree)
    (elapsed : Nat) :
    c.give programs name tree elapsed rs = c.give programs' name tree elapsed rs := by
  induction rs generalizing tree elapsed with
  | nil => rfl
  | cons r rs ih =>
    obtain ⟨hr, hrs⟩ := List.forall_mem_cons.mp h
    have hstart : Git.start programs c.program r tree = Git.start programs' c.program r tree := by
      rw [Git.start, Git.start, hr]
    simp only [give, hstart, ih hrs]

/-- A fetch from an address cannot get its work directory, which has nothing to do with the name. Or
the transient directory is new, git is asked for nothing but a clone below it, what git leaves is
read at one path of the clone, and the disk is afterwards the same whatever the name was. -/
inductive StaysBelow (c : Clones) (name address : String) (s : State) : Prop
  | unplaced {disk : Disk} {fault : FileFault}
      (hplace : c.workPlace s.disk = (disk, .error fault))
      (h : ∀ programs, c.fetch programs name s =
        { outcome := .error (.files fault), notices := [.fetchBegun name address]
          state := { s with disk } })
  | placed {disk : Disk} {spot : List String} (hplace : c.workPlace s.disk = (disk, .ok spot))
      (hnew : ∀ t, disk.root.find? spot = some t → entryAt disk spot ∉ t.entryNames)
      (hrequests : ∀ programs, ∃ made,
        (c.fetch programs name s).state.requests = s.requests ++ made ∧
          ∀ r ∈ made, RequestConfined (c.transientPath disk spot) name address r)
      (hasks : ∀ programs programs',
        (∀ r, RequestConfined (c.transientPath disk spot) name address r →
            programs c.program r = programs' c.program r) →
          c.fetch programs name s = c.fetch programs' name s)
      (hreads : ∀ programs programs',
        (c.attempt programs name address disk spot).AgreeAt [name, fileName]
            (c.attempt programs' name address disk spot) →
          c.fetch programs name s = c.fetch programs' name s)
      (hwrites : ∀ programs, (c.fetch programs name s).state.disk = swept disk spot)

/-- A fetch refuses a name whatever the state and the programs, and changes nothing. Or what it
makes from the name stays below the transient directory. -/
inductive FetchConfined (c : Clones) (name : String) : Prop
  | refused (notices : List Notice) (h : ∀ programs s, c.fetch programs name s =
      { outcome := .error (.noAddress name), notices, state := s })
  | below {address : String} (haddress : c.book.resolve c.hints name = .ok address)
      (hname : IsOrdinary name) (h : ∀ s, StaysBelow c name address s)

theorem staysBelow (hplain : isPlain name = true)
    (haddress : c.book.resolve c.hints name = .ok address) (s : State) :
    StaysBelow c name address s := by
  cases hplace : c.workPlace s.disk with
  | mk disk result =>
    cases result with
    | error fault =>
      exact .unplaced hplace fun programs => fetch_of_unplaced hplain haddress hplace
    | ok spot =>
      have hfetch (programs : Git.Programs) : c.fetch programs name s =
          { outcome := ((c.attempt programs name address disk spot).finish name).1
            notices := .fetchBegun name address ::
              ((c.attempt programs name address disk spot).finish name).2
            state := ⟨swept disk spot,
              s.requests ++ (c.attempt programs name address disk spot).requests⟩ } := by
        rw [fetch_of_placed hplain haddress hplace, fetchFrom_eq]
      have hconfined (r : Git.Request) (hr : r ∈ requestsFor (c.transientPath disk spot).text
          (spot ++ [entryAt disk spot]) address name) :
          RequestConfined (c.transientPath disk spot) name address r :=
        requestConfined (isOrdinary_of_isPlain hplain) (transientName_ne_empty _) hr
      refine .placed hplace (fun t => entryAt_not_mem) (fun programs => ?_)
        (fun programs programs' hsame => ?_) (fun programs programs' hagree => ?_)
        fun programs => ?_
      · refine ⟨(c.attempt programs name address disk spot).requests, ?_, fun r hr => ?_⟩
        · rw [hfetch]
        · exact hconfined r ((give_requests c programs name .empty 0 _).subset hr)
      · have hattempt : c.attempt programs name address disk spot =
            c.attempt programs' name address disk spot :=
          give_congr (fun r hr => hsame r (hconfined r hr)) .empty 0
        rw [hfetch, hfetch, hattempt]
      · rw [hfetch, hfetch, hagree.finish, hagree.requests]
      · rw [hfetch]

theorem fetchConfined (c : Clones) (name : String) : FetchConfined c name := by
  by_cases hplain : isPlain name = true
  · cases haddress : c.book.resolve c.hints name with
    | ok address =>
      exact .below haddress (isOrdinary_of_isPlain hplain) fun s =>
        staysBelow hplain haddress s
    | error failure =>
      obtain rfl := AddressBook.noAddress_of_resolve haddress
      refine .refused [] fun programs s => ?_
      rw [fetch, if_pos hplain, haddress]
  · refine .refused [.nameRefused name] fun programs s => ?_
    rw [fetch, if_neg hplain]

end Clones

/-- Whatever the name of a module is, in a directory and with clones it is refused with nothing
touched, or all that is made from it stays below the root and the transient directory. -/
theorem name_confined (name : String) :
    (∀ root, SearchConfined root name) ∧ ∀ c, Clones.FetchConfined c name :=
  ⟨fun root => searchConfined root name, fun c => Clones.fetchConfined c name⟩

end Source
end ModuleClosure
