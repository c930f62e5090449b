import ModuleClosure.Git.Remotes
import ModuleClosure.Proofs.AddressBook
import ModuleClosure.Proofs.Description.File
import ModuleClosure.Proofs.Disk.Making
import ModuleClosure.Proofs.Source.Transient

/-!
# The course of a fetch

Without a time limit git is called for one request after the other, until a call does not start or
does not succeed. A fetch fails to fetch exactly if there is such a call, and otherwise the clone
says what comes of it. The transient directory is gone after every course, so the work directory
holds what it held once it was made. If it was there before, the whole disk is as it was.
-/
namespace ModuleClosure.Source.Clones
open Text

/-- A call of git: what was asked for, and what was reported unless it could not be started. -/
structure Call where
  request : Git.Request
  answer : Except FileFault Git.Report

namespace Call

def started (call : Call) : Bool := call.answer.isOk

def succeeded (call : Call) : Bool :=
  match call.answer with
  | .error _ => false
  | .ok report => report.ending.succeeded

def notice (name : String) (call : Call) : Notice :=
  .gitRun name call.request.directory call.request.command

/-- What is wrong with a call that did not succeed. -/
def fault? (program : String) (call : Call) : Option FetchFault :=
  match call.answer with
  | .error fault => some (.notStarted program fault)
  | .ok report =>
    if report.ending.succeeded then none
    else
      let errors := String.ofList (trim (decodeLossy report.errors))
      some (.ended call.request.command report.ending errors)

theorem fault?_eq_none_iff {program : String} {call : Call} :
    call.fault? program = none ↔ call.succeeded = true := by
  rw [fault?, succeeded]
  cases call.answer with
  | error fault => simp
  | ok report => simp

end Call

variable {c : Clones} {programs : Git.Programs} {program name address : String} {s : State}
  {tree : FileTree} {rs : List Git.Request} {calls : List Call} {disk before : Disk}
  {spot : List String}

/-- The calls for requests in the order they are made, each in the tree that the one before left. A
call is the last one if it does not start or does not succeed. -/
inductive Course (run : Git.Program) :
    FileTree → List Git.Request → List Call → FileTree → Prop
  | done (tree : FileTree) : Course run tree [] [] tree
  | unstarted {tree r rs fault} (h : run r tree = .error fault) :
      Course run tree (r :: rs) [⟨r, .error fault⟩] tree
  | failed {tree left r rs report} (h : run r tree = .ok (report, left))
      (hfailed : report.ending.succeeded = false) :
      Course run tree (r :: rs) [⟨r, .ok report⟩] left
  | succeeded {tree next left r rs report calls} (h : run r tree = .ok (report, next))
      (hsucceeded : report.ending.succeeded = true) (hrest : Course run next rs calls left) :
      Course run tree (r :: rs) (⟨r, .ok report⟩ :: calls) left

/-- The outcome of calls, which the first one that did not succeed decides. -/
def outcomeOf (program name : String) (calls : List Call) : Except Failure Unit :=
  (calls.findSome? (Call.fault? program)).elim (.ok ()) fun fault => .error (.fetch name fault)

/-- All calls succeeded, or one did not and it is a failure to fetch. -/
theorem outcomeOf_cases (program name : String) (calls : List Call) :
    (∀ call ∈ calls, call.succeeded = true) ∧ outcomeOf program name calls = .ok () ∨
    (∃ call ∈ calls, call.succeeded = false) ∧
      ∃ fault, outcomeOf program name calls = .error (.fetch name fault) := by
  cases hfault : calls.findSome? (Call.fault? program) with
  | none =>
    have hall := List.findSome?_eq_none_iff.mp hfault
    refine .inl ⟨fun call hcall => Call.fault?_eq_none_iff.mp (hall call hcall), ?_⟩
    rw [outcomeOf, hfault]
    rfl
  | some fault =>
    obtain ⟨call, hcall, hcallFault⟩ := List.exists_of_findSome?_eq_some hfault
    refine .inr ⟨⟨call, hcall, ?_⟩, fault, ?_⟩
    · rw [← Bool.not_eq_true]
      intro hsucceeded
      cases hcallFault.symm.trans (Call.fault?_eq_none_iff.mpr hsucceeded)
    · rw [outcomeOf, hfault]
      rfl

/-- An attempt that is what the calls for requests make of it. -/
structure Attempt.Follows (programs : Git.Programs) (program name : String) (tree : FileTree)
    (rs : List Git.Request) (calls : List Call) (a : Attempt) : Prop where
  course : Course (Git.start programs program) tree rs calls a.tree
  outcome : a.outcome = outcomeOf program name calls
  requests : a.requests = (calls.filter Call.started).map Call.request
  notices : a.notices = calls.map (Call.notice name)

theorem isLate_of_no_limit (hlimit : c.limit = none) (milliseconds : Nat) :
    c.isLate milliseconds = false := by
  rw [isLate, hlimit]
  rfl

/-- Without a time limit requests are followed by calls, whatever the programs do. -/
theorem give_follows (hlimit : c.limit = none) (programs : Git.Programs) (name : String)
    (tree : FileTree) (elapsed : Nat) (rs : List Git.Request) : ∃ calls,
      (c.give programs name tree elapsed rs).Follows programs c.program name tree rs calls := by
  induction rs generalizing tree elapsed with
  | nil => exact ⟨[], .done tree, rfl, rfl, rfl⟩
  | cons r rs ih =>
    rw [give]
    cases hstart : Git.start programs c.program r tree with
    | error fault => exact ⟨[⟨r, .error fault⟩], .unstarted hstart, rfl, rfl, rfl⟩
    | ok answer =>
      obtain ⟨report, next⟩ := answer
      dsimp only
      rw [isLate_of_no_limit hlimit, if_neg Bool.false_ne_true]
      cases hsucceeded : report.ending.succeeded with
      | false =>
        refine ⟨[⟨r, .ok report⟩], .failed hstart hsucceeded, ?_, rfl, rfl⟩
        simp [outcomeOf, Call.fault?, hsucceeded]
      | true =>
        obtain ⟨calls, hrest⟩ := ih next (elapsed + report.milliseconds)
        refine ⟨⟨r, .ok report⟩ :: calls, .succeeded hstart hsucceeded hrest.course, ?_, ?_, ?_⟩
        · have hnone : Call.fault? c.program ⟨r, .ok report⟩ = none := if_pos hsucceeded
          rw [outcomeOf, List.findSome?_cons_of_isNone (by simp [hnone])]
          exact hrest.outcome
        · exact congrArg (r :: ·) hrest.requests
        · exact congrArg (_ :: ·) hrest.notices

/-- Whether a notice tells of a call of git. -/
def isRun : Notice → Bool
  | .gitRun .. => true
  | _ => false

theorem Attempt.outcome_finish (a : Attempt) (name : String) :
    (a.finish name).1 = a.outcome.bind fun () => readClone a.tree name := by
  rw [finish]
  cases a.outcome with
  | error failure => rfl
  | ok _ =>
    change _ = readClone a.tree name
    cases readClone a.tree name <;> rfl

theorem Attempt.runs_finish (a : Attempt) (name : String) :
    (a.finish name).2.filter isRun = a.notices.filter isRun := by
  have hread (d : Description) : (readNotices name d).filter isRun = [] := by
    rw [readNotices]
    split <;> rfl
  rw [finish]
  cases a.outcome with
  | error failure => rfl
  | ok _ =>
    cases readClone a.tree name with
    | error failure => rfl
    | ok d => rw [List.filter_append, hread, List.append_nil]

/-- What a clone holds is never a failure to fetch. -/
theorem readClone_ne_fetch {module : String} {fault : FetchFault} :
    readClone tree name ≠ .error (.fetch module fault) := by
  intro h
  rw [readClone] at h
  split at h
  · cases h
  · split at h
    · cases h
    · cases Description.read_eq_error_iff.mp h

section Follows

variable {a : Attempt} (h : a.Follows programs program name tree rs calls)
include h

theorem Attempt.Follows.runs : (a.finish name).2.filter isRun = calls.map (Call.notice name) := by
  have hcalls : (calls.map (Call.notice name)).filter isRun = calls.map (Call.notice name) := by
    refine List.filter_eq_self.mpr fun notice hnotice => ?_
    obtain ⟨call, -, rfl⟩ := List.mem_map.mp hnotice
    rfl
  rw [a.runs_finish name, h.notices, hcalls]

theorem Attempt.Follows.read (hall : ∀ call ∈ calls, call.succeeded = true) :
    (a.finish name).1 = readClone a.tree name := by
  rw [a.outcome_finish name, h.outcome]
  rcases outcomeOf_cases program name calls with ⟨-, hok⟩ | ⟨⟨call, hcall, hfailed⟩, -⟩
  · rw [hok]
    rfl
  · cases (hall call hcall).symm.trans hfailed

theorem Attempt.Follows.fetch_iff : (∃ fault, (a.finish name).1 = .error (.fetch name fault)) ↔
    ∃ call ∈ calls, call.succeeded = false := by
  rcases outcomeOf_cases program name calls with ⟨hall, -⟩ | ⟨hfailed, fault, herror⟩
  · refine iff_of_false ?_ ?_
    · rintro ⟨fault, hfetch⟩
      exact readClone_ne_fetch ((h.read hall).symm.trans hfetch)
    · rintro ⟨call, hcall, hfailed⟩
      cases (hall call hcall).symm.trans hfailed
  · refine iff_of_true ⟨fault, ?_⟩ hfailed
    rw [a.outcome_finish name, h.outcome, herror]
    rfl

end Follows

section Kept

/-- The name of the transient directory is new. -/
theorem entryAt_not_mem_held (disk : Disk) (spot : List String) :
    entryAt disk spot ∉ (disk.root.held spot).map Prod.fst := by
  cases hfind : disk.root.find? spot with
  | none => simp [FileTree.held, hfind]
  | some t =>
    rw [FileTree.held_of_find? hfind]
    exact entryAt_not_mem hfind

/-- What the place of a transient directory held is there after it was made and removed. -/
theorem swept_eq (disk : Disk) (spot : List String) : swept disk spot =
    { disk with root := disk.root.put (.directory (disk.root.held spot)) spot } :=
  congrArg (Disk.mk · disk.here)
    (FileTree.remove_put_concat (entryAt_not_mem_held disk spot) .empty)

theorem swept_of_find? {es : List (String × FileTree)}
    (h : disk.root.find? spot = some (.directory es)) : swept disk spot = disk := by
  rw [swept_eq, FileTree.held_of_find? h]
  exact congrArg (Disk.mk · disk.here) (FileTree.put_of_find? h)

theorem workPlace_eq_ok (hplace : c.workPlace before = (disk, .ok spot)) :
    before.makeDirectories c.workdir = (disk, .ok ()) ∧ disk.spotOf c.workdir = .ok spot := by
  obtain ⟨made, hmade, hspot⟩ := workPlace_eq_iff.mp hplace
  cases made with
  | error fault => cases hspot
  | ok _ => exact ⟨hmade, hspot⟩

theorem held_swept (hplace : c.workPlace before = (disk, .ok spot)) :
    (swept disk spot).held c.workdir = disk.held c.workdir := by
  obtain ⟨hmade, hspot⟩ := workPlace_eq_ok hplace
  by_cases hparts : c.workdir.parts = []
  · -- The current directory may be missing; then it is made with the transient one.
    have hhere (d : Disk) : d.spotOf c.workdir = .ok d.here := if_pos hparts
    obtain rfl : disk.here = spot := Except.ok.inj ((hhere disk).symm.trans hspot)
    have hswept : (swept disk disk.here).spotOf c.workdir = .ok disk.here := hhere _
    rw [Disk.held_of_spotOf hswept, Disk.held_of_spotOf hspot, swept_eq, FileTree.held_put]
    rfl
  · obtain ⟨es, spot', hspot', hfind⟩ := Disk.lists_of_makeDirectories hmade hparts
    obtain rfl : spot = spot' := Except.ok.inj (hspot.symm.trans hspot')
    rw [swept_of_find? hfind]

end Kept

/-- What a fetch comes to. It goes nowhere, or it has no place to work in, or the requests for the
module are attempted in a transient directory. -/
inductive Fetched (c : Clones) (programs : Git.Programs) (name : String) (s : State) :
    Reply State → Prop
  | refused {notices : List Notice}
      (hnowhere : ¬ (isPlain name = true ∧ ∃ address, c.book.resolve c.hints name = .ok address))
      (hnotices : notices = [] ∨ notices = [.nameRefused name]) :
      Fetched c programs name s { outcome := .error (.noAddress name), notices, state := s }
  | unplaced {address : String} {disk : Disk} {fault : FileFault}
      (hplain : isPlain name = true) (haddress : c.book.resolve c.hints name = .ok address)
      (hplace : c.workPlace s.disk = (disk, .error fault)) :
      Fetched c programs name s
        { outcome := .error (.files fault), notices := [.fetchBegun name address]
          state := { s with disk } }
  | placed {address : String} {disk : Disk} {spot : List String}
      (hplain : isPlain name = true) (haddress : c.book.resolve c.hints name = .ok address)
      (hplace : c.workPlace s.disk = (disk, .ok spot)) :
      Fetched c programs name s
        { outcome := ((c.attempt programs name address disk spot).finish name).1
          notices := .fetchBegun name address ::
            ((c.attempt programs name address disk spot).finish name).2
          state := ⟨swept disk spot,
            s.requests ++ (c.attempt programs name address disk spot).requests⟩ }

theorem fetched (c : Clones) (programs : Git.Programs) (name : String) (s : State) :
    Fetched c programs name s (c.fetch programs name s) := by
  by_cases hplain : isPlain name = true
  · cases haddress : c.book.resolve c.hints name with
    | error failure =>
      obtain rfl := AddressBook.noAddress_of_resolve haddress
      have hfetch : c.fetch programs name s =
          { outcome := .error (.noAddress name), state := s } := by
        rw [fetch, if_pos hplain, haddress]
      rw [hfetch]
      refine .refused ?_ (.inl rfl)
      rintro ⟨-, address, hfound⟩
      cases haddress.symm.trans hfound
    | ok address =>
      cases hplace : c.workPlace s.disk with
      | mk disk result =>
        cases result with
        | error fault =>
          rw [fetch_of_unplaced hplain haddress hplace]
          exact .unplaced hplain haddress hplace
        | ok spot =>
          rw [fetch_of_placed hplain haddress hplace, fetchFrom_eq]
          exact .placed hplain haddress hplace
  · have hfetch : c.fetch programs name s =
        { outcome := .error (.noAddress name), notices := [.nameRefused name], state := s } :=
      if_neg hplain
    rw [hfetch]
    exact .refused (fun h => hplain h.1) (.inr rfl)

section Reply

variable {reply : Reply State}

/-- A fetch with a work directory that is there leaves the whole disk as it was. -/
theorem Fetched.disk_of_lists (h : Fetched c programs name s reply)
    {es : List (String × FileTree)} (hlists : s.disk.Lists c.workdir es) :
    reply.state.disk = s.disk := by
  have hmade := Disk.makeDirectories_of_lists hlists
  obtain ⟨place, hspot, hfind⟩ := hlists
  have hplaced : c.workPlace s.disk = (s.disk, .ok place) :=
    workPlace_eq_iff.mpr ⟨.ok (), hmade, hspot⟩
  cases h with
  | refused => rfl
  | unplaced _ _ hplace => cases hplaced.symm.trans hplace
  | placed _ _ hplace =>
    cases hplaced.symm.trans hplace
    exact swept_of_find? hfind

/-- If the path of the work directory never goes back, it holds after a fetch what it held before. A
directory that was not there held nothing. -/
theorem Fetched.held (h : Fetched c programs name s reply) (hforth : ".." ∉ c.workdir.parts) :
    reply.state.disk.held c.workdir = s.disk.held c.workdir := by
  have hmade {disk : Disk} {result : Except FileFault (List String)}
      (hplace : c.workPlace s.disk = (disk, result)) :
      disk.held c.workdir = s.disk.held c.workdir := by
    obtain ⟨made, hmade, -⟩ := workPlace_eq_iff.mp hplace
    rw [← Disk.held_makeDirectories hforth s.disk, hmade]
  cases h with
  | refused => rfl
  | unplaced _ _ hplace => exact hmade hplace
  | placed _ _ hplace => exact (held_swept hplace).trans (hmade hplace)

/-- How a fetch goes without a time limit. Where it goes nowhere or has no place to work in, git is
not called. Otherwise git is called for a clone in a new transient directory, and for the checkout
in the clone if that succeeded. -/
inductive FetchCourse (c : Clones) (programs : Git.Programs) (name : String) (s : State)
    (reply : Reply State) : Prop
  | refused
      (hnowhere : ¬ (isPlain name = true ∧ ∃ address, c.book.resolve c.hints name = .ok address))
      (houtcome : reply.outcome = .error (.noAddress name))
      (hruns : reply.notices.filter isRun = []) (hstate : reply.state = s)
  | unplaced {address : String} {disk : Disk} {fault : FileFault}
      (hplain : isPlain name = true) (haddress : c.book.resolve c.hints name = .ok address)
      (hplace : c.workPlace s.disk = (disk, .error fault))
      (houtcome : reply.outcome = .error (.files fault))
      (hruns : reply.notices.filter isRun = []) (hstate : reply.state = { s with disk })
  | placed {address : String} {disk : Disk} {spot : List String} {calls : List Call}
      {left : FileTree}
      (hplain : isPlain name = true) (haddress : c.book.resolve c.hints name = .ok address)
      (hplace : c.workPlace s.disk = (disk, .ok spot))
      (hnew : entryAt disk spot ∉ (disk.held c.workdir).map Prod.fst)
      (hcourse : Course (Git.start programs c.program) .empty
        (requestsFor (c.transientPath disk spot).text (spot ++ [entryAt disk spot]) address name)
        calls left)
      (hruns : reply.notices.filter isRun = calls.map (Call.notice name))
      (hrequests : reply.state.requests =
        s.requests ++ (calls.filter Call.started).map Call.request)
      (hfetch : (∃ fault, reply.outcome = .error (.fetch name fault)) ↔
        ∃ call ∈ calls, call.succeeded = false)
      (hread : (∀ call ∈ calls, call.succeeded = true) → reply.outcome = readClone left name)
      (hheld : reply.state.disk.held c.workdir = disk.held c.workdir)

theorem Fetched.course (h : Fetched c programs name s reply) (hlimit : c.limit = none) :
    FetchCourse c programs name s reply := by
  cases h with
  | refused hnowhere hnotices =>
    refine .refused hnowhere rfl ?_ rfl
    rcases hnotices with rfl | rfl <;> rfl
  | unplaced hplain haddress hplace => exact .unplaced hplain haddress hplace rfl rfl rfl
  | @placed address disk spot hplain haddress hplace =>
    obtain ⟨calls, hfollows⟩ : ∃ calls, (c.attempt programs name address disk spot).Follows
        programs c.program name .empty (requestsFor (c.transientPath disk spot).text
          (spot ++ [entryAt disk spot]) address name) calls :=
      give_follows hlimit programs name .empty 0 _
    have hnew := entryAt_not_mem_held disk spot
    rw [← Disk.held_of_spotOf (workPlace_eq_ok hplace).2] at hnew
    exact .placed hplain haddress hplace hnew hfollows.course hfollows.runs
      (congrArg (s.requests ++ ·) hfollows.requests) hfollows.fetch_iff hfollows.read
      (held_swept hplace)

end Reply

/-- Without a time limit a fetch goes its course, whatever the git programs do. If the work
directory was there, the whole disk is as it was. If its path never goes back, it holds what it held
before in any case. -/
theorem fetch_course (hlimit : c.limit = none) (programs : Git.Programs) (name : String)
    (s : State) :
    FetchCourse c programs name s (c.fetch programs name s) ∧
    (∀ es, s.disk.Lists c.workdir es → (c.fetch programs name s).state.disk = s.disk) ∧
    (".." ∉ c.workdir.parts →
      (c.fetch programs name s).state.disk.held c.workdir = s.disk.held c.workdir) := by
  have h := c.fetched programs name s
  exact ⟨h.course hlimit, fun _ => h.disk_of_lists, h.held⟩

/-- Clones of one repository, in a work directory that holds something. -/
def plainClones : Clones where
  hints := .ofEntries [("a", "u")]
  workdir := .ofText "/w"

def plainEntries : List (String × FileTree) := [("kept", .empty)]

def plainState : State where
  disk := { root := .directory [("w", .directory plainEntries)] }

def plainPrograms : Git.Programs := fun _ =>
  Git.ofRemotes [("u", { module := some (.ofText "Module: a") })]

theorem fetch_course_plain :
    plainClones.limit = none ∧ plainState.disk.Lists plainClones.workdir plainEntries ∧
    ".." ∉ plainClones.workdir.parts ∧
    (plainClones.fetch plainPrograms "a" plainState).notices.filter isRun =
      [.gitRun "a" "/w/gdmf-*" "clone", .gitRun "a" "/w/gdmf-*/a" "checkout"] ∧
    FetchCourse plainClones plainPrograms "a" plainState
      (plainClones.fetch plainPrograms "a" plainState) ∧
    (plainClones.fetch plainPrograms "a" plainState).state.disk = plainState.disk ∧
    (plainClones.fetch plainPrograms "a" plainState).state.disk.held plainClones.workdir =
      plainState.disk.held plainClones.workdir := by
  have hlimit : plainClones.limit = none := rfl
  have hlists : plainState.disk.Lists plainClones.workdir plainEntries := ⟨["w"], rfl, rfl⟩
  have hforth : ".." ∉ plainClones.workdir.parts := by decide
  have hruns : (plainClones.fetch plainPrograms "a" plainState).notices.filter isRun =
      [.gitRun "a" "/w/gdmf-*" "clone", .gitRun "a" "/w/gdmf-*/a" "checkout"] := by
    decide +kernel
  obtain ⟨hcourse, hdisk, hheld⟩ := fetch_course hlimit plainPrograms "a" plainState
  exact ⟨hlimit, hlists, hforth, hruns, hcourse, hdisk plainEntries hlists, hheld hforth⟩

/-- Clones in a work directory whose path goes back. -/
def backClones : Clones where
  hints := .ofEntries [("a", "u")]
  workdir := .ofText "/w/x/.."

/-- A directory that was made on the way to the work directory stays in it. -/
theorem exists_directory_left :
    backClones.limit = none ∧ Disk.held {} backClones.workdir = [] ∧
    ((backClones.fetch (fun _ => .missing) "a" {}).state.disk.held backClones.workdir).map Prod.fst
      = ["x"] := by
  refine ⟨rfl, rfl, ?_⟩
  decide +kernel

end ModuleClosure.Source.Clones
