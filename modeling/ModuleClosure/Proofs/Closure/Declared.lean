import ModuleClosure.Proofs.Closure.Requests

/-!
# Declared names

A source may answer with a description that declares another name than the one it was asked for. A
resolution enters and settles such a description under both names, so it may stand for the module
of the declared name. As long as the declared names are apart from all modules that a root leads
to, they have no part in what the root comes to.
-/
namespace ModuleClosure

/-- The source with every description under the name that is asked for. -/
def Source.renamed {σ : Type} (source : Source σ) : Source σ where
  fetch name s :=
    let reply := source.fetch name s
    { reply with outcome := reply.outcome.map fun d => { d with name } }
  reach := source.reach

namespace Memo

variable {memo memo' : Memo} {m : Description}

/-- A closure depends on the memo through what it holds for the needs. -/
theorem closureOf_congr (h : ∀ n ∈ m.needs, memo.get? n = memo'.get? n) :
    memo.closureOf m = memo'.closureOf m := by
  have hd : m.depends.toList.filterMap memo.get? = m.depends.toList.filterMap memo'.get? :=
    List.filterMap_congr fun n hn => h n (List.mem_append_left _ hn)
  have hs : m.suggests.toList.filterMap memo.get? = m.suggests.toList.filterMap memo'.get? :=
    List.filterMap_congr fun n hn => h n (List.mem_append_right _ hn)
  rw [closureOf, closureOf, hd, hs]

theorem closureOf_rename (memo : Memo) (m : Description) (name : String) :
    memo.closureOf { m with name } = { memo.closureOf m with name } := rfl

end Memo

namespace Closure
open Relation

section Names
variable (answers : Answers) (root : Description)

/-- What a name stands for below a root: the root itself, or what the source answers. -/
def descriptionOf (n : String) : Except Failure Description :=
  if n = root.name then .ok root else answers n

/-- The name that the description of a module declares. -/
def declaredName (n : String) : String :=
  match descriptionOf answers root n with
  | .ok d => d.name
  | .error _ => n

/-- The modules that a module needs, by the names they are asked for. -/
def needsOf (n : String) : List String :=
  match descriptionOf answers root n with
  | .ok d => d.needs
  | .error _ => []

def Asks (a b : String) : Prop := b ∈ needsOf answers root a

/-- The root leads to a module, by the names they are asked for. -/
def Leads (n : String) : Prop := ReflTransGen (Asks answers root) root.name n

/-- No module declares the name of another one that the root leads to, and none declares the same
name as another one that it leads to itself. -/
structure Apart : Prop where
  own : ∀ n x, Leads answers root n → Leads answers root x →
    declaredName answers root n = x → n = x
  below : ∀ n x, Leads answers root n → TransGen (Asks answers root) n x →
    declaredName answers root n = declaredName answers root x → n = x

end Names

variable {σ : Type} {source : Source σ} {answers : Answers} {root m d : Description} {name : String}
  {names path : List String} {depth : Nat} {p p' q q' : Progress σ}

theorem descriptionOf_root : descriptionOf answers root root.name = .ok root := by
  simp [descriptionOf]

theorem descriptionOf_of_ne (h : name ≠ root.name) :
    descriptionOf answers root name = answers name := by
  simp [descriptionOf, h]

theorem declaredName_of_ok (h : descriptionOf answers root name = .ok d) :
    declaredName answers root name = d.name := by
  simp [declaredName, h]

theorem asks_of_ok (h : descriptionOf answers root name = .ok d) {n : String} (hn : n ∈ d.needs) :
    Asks answers root name n := by
  simpa [Asks, needsOf, h] using hn

theorem declaredName_root : declaredName answers root root.name = root.name :=
  declaredName_of_ok descriptionOf_root

/-- Declared names are apart if they are on a set of names that the root does not lead out of. -/
theorem Apart.of_known (known : List String) (hroot : root.name ∈ known)
    (hneeds : ∀ n ∈ known, ∀ x ∈ needsOf answers root n, x ∈ known)
    (hown : ∀ n ∈ known, ∀ x ∈ known, declaredName answers root n = x → n = x)
    (hsame : ∀ n ∈ known, ∀ x ∈ known,
      declaredName answers root n = declaredName answers root x → n = x) : Apart answers root := by
  have hlead {n : String} (hn : Leads answers root n) : n ∈ known := by
    induction hn with
    | refl => exact hroot
    | tail _ hx ih => exact hneeds _ ih _ hx
  refine ⟨fun n x hn hx => hown n (hlead hn) x (hlead hx), fun n x hn hx => ?_⟩
  exact hsame n (hlead hn) x (hlead (ReflTransGen.trans hn hx.to_reflTransGen))

/-- The modules that are being resolved lead to the one that is asked for. -/
structure Below (answers : Answers) (root : Description) (path : List String) (name : String) :
    Prop where
  leads : Leads answers root name
  path : ∀ x ∈ path, Leads answers root x ∧ TransGen (Asks answers root) x name

theorem Below.step (h : Below answers root path name)
    (hd : descriptionOf answers root name = .ok d) {n : String} (hn : n ∈ d.needs) :
    Below answers root (path ++ [name]) n where
  leads := h.leads.tail (asks_of_ok hd hn)
  path x hx := by
    rcases List.mem_append.mp hx with hx | hx
    · exact ⟨(h.path x hx).1, (h.path x hx).2.tail (asks_of_ok hd hn)⟩
    · cases List.mem_singleton.mp hx
      exact ⟨h.leads, .single (asks_of_ok hd hn)⟩

/-- A pending name that is declared for a module is declared by that module. -/
theorem Below.mem_of_declared (h : Below answers root path name) (hapart : Apart answers root)
    (hmem : declaredName answers root name ∈ path.map (declaredName answers root)) :
    name ∈ path := by
  obtain ⟨x, hx, he⟩ := List.mem_map.mp hmem
  cases hapart.below x name (h.path x hx).1 (h.path x hx).2 he
  exact hx

/-- A pending name that is asked for belongs to the module of that name. -/
theorem Below.mem_of_asked (h : Below answers root path name) (hapart : Apart answers root)
    (hmem : name ∈ path.map (declaredName answers root)) :
    name ∈ path ∧ declaredName answers root name = name := by
  obtain ⟨x, hx, he⟩ := List.mem_map.mp hmem
  cases hapart.own x name (h.path x hx).1 h.leads he
  exact ⟨hx, he⟩

private theorem dropWhile_ne_map {f : String → String} {l : List String}
    (h : ∀ x ∈ l, f x = f name → x = name) :
    (l.map f).dropWhile (· ≠ f name) = (l.dropWhile (· ≠ name)).map f := by
  induction l with
  | nil => rfl
  | cons x l ih =>
    obtain ⟨hx, hl⟩ := List.forall_mem_cons.mp h
    by_cases he : x = name
    · simp [he]
    · rw [List.map_cons, List.dropWhile_cons_of_pos (by simpa using mt hx he), ih hl,
        List.dropWhile_cons_of_pos (by simpa using he)]

/-- Two runs side by side: the one has the declared names pending where the other has the names that
were asked for, and they have the same entries for all modules that the root leads to. -/
structure Mirror (answers : Answers) (root : Description) (path : List String)
    (p q : Progress σ) : Prop where
  declared : p.memo.pending = path.map (declaredName answers root)
  asked : q.memo.pending = path
  get? : ∀ n, Leads answers root n → p.memo.get? n = q.memo.get? n

/-- Two ways to stop: the same one, or two cycles of the same modules. -/
def Alike (answers : Answers) (root : Description) (stop stop' : Stop) : Prop :=
  stop = stop' ∨ ∃ cycle, stop = .failed (.cycle (cycle.map (declaredName answers root))) ∧
    stop' = .failed (.cycle cycle)

/-- The names of a cycle are those of the same modules in both runs. -/
theorem Mirror.alike_cycle (h : Mirror answers root path p q) (hapart : Apart answers root)
    (hb : Below answers root path name) :
    Alike answers root (.failed (.cycle (p.memo.cycleTo (declaredName answers root name))))
      (.failed (.cycle (q.memo.cycleTo name))) := by
  refine .inr ⟨q.memo.cycleTo name, ?_, rfl⟩
  rw [Memo.cycleTo, Memo.cycleTo, h.declared, h.asked, List.map_append, dropWhile_ne_map]
  · rfl
  · exact fun x hx he => hapart.below x name (hb.path x hx).1 (hb.path x hx).2 he

/-- Two outcomes of what is asked for by the same names, and how the runs stand after a success. -/
inductive Matched {α : Type} (answers : Answers) (root : Description) (path : List String)
    (p q : Progress σ) : Except Stop α → Except Stop α → Prop
  | ok (a : α) (hm : Mirror answers root path p q) : Matched answers root path p q (.ok a) (.ok a)
  | error {stop stop'} (h : Alike answers root stop stop') :
      Matched answers root path p q (.error stop) (.error stop')

/-- Two outcomes of the description of a name, which the second run has under that name. -/
inductive Renamed (answers : Answers) (root : Description) (path : List String) (name : String)
    (p q : Progress σ) : Except Stop Description → Except Stop Description → Prop
  | ok {r} (hm : Mirror answers root path (p.settle { r with name }) q) :
      Renamed answers root path name p q (.ok r) (.ok { r with name })
  | error {stop stop'} (h : Alike answers root stop stop') :
      Renamed answers root path name p q (.error stop) (.error stop')

/-- Resolutions of a depth mirror one another. -/
def Mirrors (source : Source σ) (answers : Answers) (root : Description) (depth : Nat) : Prop :=
  ∀ ⦃name d path p q o p' o' q'⦄, descriptionOf answers root name = .ok d →
    Below answers root path name → name ∉ path → root.name ∈ path ++ [name] →
    Mirror answers root path p q → resolveWithin source depth d p = (o, p') →
    resolveWithin source.renamed depth { d with name } q = (o', q') →
      Renamed answers root path name p' q' o o'

/-- A module that is being resolved leads to itself, whichever of its names is pending. -/
theorem Demanded.cycle_of_mem (ha : source.Gives answers) (hapart : Apart answers root)
    (hb : Below answers root path name) (hm : Mirror answers root path p q) (hmem : name ∈ path)
    (hs : p.memo.get? name = none) {o}
    (h : Demanded source (resolveWithin source depth) name p o p') :
    o = .error (.failed (.cycle (p.memo.cycleTo (declaredName answers root name)))) := by
  have hdecl : declaredName answers root name ∈ p.memo.pending :=
    hm.declared ▸ List.mem_map_of_mem hmem
  by_cases he : declaredName answers root name = name
  · rw [he] at hdecl ⊢
    exact h.of_pending hs hdecl
  · have hne : name ≠ root.name := fun hr => he (hr ▸ declaredName_root)
    have hpend : name ∉ p.memo.pending := by
      rw [hm.declared]
      exact fun hmem => he (hb.mem_of_asked hapart hmem).2
    cases hd : descriptionOf answers root name with
    | error f => exact absurd (by simp [declaredName, hd]) he
    | ok d =>
      rw [declaredName_of_ok hd] at hdecl ⊢
      rw [descriptionOf_of_ne hne, ← ha name p.state] at hd
      rcases h.of_found hs hpend hd with ⟨stop, hn, rfl⟩ | ⟨r, p₁, e, hn, -⟩
      · exact ((resolved hn).of_pending hdecl).1
      · cases ((resolved hn).of_pending hdecl).1

/-- A name that is neither settled nor pending is asked of the source in both runs. -/
theorem Demanded.mirror_fetched (ha : source.Gives answers) (hn : Mirrors source answers root depth)
    (hb : Below answers root path name) (hroot : root.name ∈ path) (hmem : name ∉ path)
    (hm : Mirror answers root path p q) (hp : p.memo.get? name = none) (hq : q.memo.get? name = none)
    (hpend : name ∉ p.memo.pending) (hpend' : name ∉ q.memo.pending) {o o'}
    (h : Demanded source (resolveWithin source depth) name p o p')
    (h' : Demanded source.renamed (resolveWithin source.renamed depth) name q o' q') :
    Matched answers root path p' q' o o' := by
  have hreceive (reply reply') :
      Mirror answers root path (p.receive name reply) (q.receive name reply') :=
    ⟨hm.declared, hm.asked, hm.get?⟩
  cases hf : answers name with
  | error f =>
    obtain rfl := h.of_refused hp hpend ((ha name _).trans hf)
    have hf' : (source.renamed.fetch name q.state).outcome = .error f := by
      simp [Source.renamed, ha name, hf, Except.map]
    obtain rfl := h'.of_refused hq hpend' hf'
    exact .error (.inl rfl)
  | ok found =>
    have hne : name ≠ root.name := fun he => hmem (he ▸ hroot)
    have hd : descriptionOf answers root name = .ok found := (descriptionOf_of_ne hne).trans hf
    have hroot' : root.name ∈ path ++ [name] := List.mem_append_left _ hroot
    have hfound := h.of_found hp hpend ((ha name _).trans hf)
    have hf' : (source.renamed.fetch name q.state).outcome = .ok { found with name } := by
      simp [Source.renamed, ha name, hf, Except.map]
    have hfound' := h'.of_found hq hpend' hf'
    rcases hfound with ⟨stop, hr, rfl⟩ | ⟨r, p₁, e, hr, rfl, rfl, he⟩ <;>
      rcases hfound' with ⟨stop', hr', rfl⟩ | ⟨r', q₁, e', hr', rfl, rfl, he'⟩
    · cases hn hd hb hmem hroot' (hreceive _ _) hr hr' with
      | error hs => exact .error hs
    · cases hn hd hb hmem hroot' (hreceive _ _) hr hr'
    · cases hn hd hb hmem hroot' (hreceive _ _) hr hr'
    · cases hn hd hb hmem hroot' (hreceive _ _) hr hr' with
      | ok hm₁ =>
        -- The second run has settled the description under this name already.
        have hset : q₁.settle { r with name } = q₁ :=
          q₁.settle_of_settled ((framed _ depth hr').2 _ rfl).2
        have he₁ := (hm₁.get? name hb.leads).symm.trans he
        rw [hset] at he' ⊢
        cases he₁.symm.trans he'
        exact .ok e hm₁

theorem Demanded.mirror (ha : source.Gives answers) (hapart : Apart answers root)
    (hn : Mirrors source answers root depth) (hb : Below answers root path name)
    (hroot : root.name ∈ path) (hm : Mirror answers root path p q) {o o'}
    (h : Demanded source (resolveWithin source depth) name p o p')
    (h' : Demanded source.renamed (resolveWithin source.renamed depth) name q o' q') :
    Matched answers root path p' q' o o' := by
  cases hq : q.memo.get? name with
  | some d =>
    obtain ⟨rfl, rfl⟩ := h.of_settled ((hm.get? name hb.leads).trans hq)
    obtain ⟨rfl, rfl⟩ := h'.of_settled hq
    exact .ok d hm
  | none =>
    have hp : p.memo.get? name = none := (hm.get? name hb.leads).trans hq
    by_cases hmem : name ∈ path
    · obtain rfl := h.cycle_of_mem ha hapart hb hm hmem hp
      obtain rfl := h'.of_pending hq (hm.asked.symm ▸ hmem)
      exact .error (hm.alike_cycle hapart hb)
    · have hpend : name ∉ p.memo.pending := by
        rw [hm.declared]
        exact fun h => hmem (hb.mem_of_asked hapart h).1
      have hpend' : name ∉ q.memo.pending := hm.asked.symm ▸ hmem
      exact h.mirror_fetched ha hn hb hroot hmem hm hp hq hpend hpend' h'

theorem DemandedAll.mirror (ha : source.Gives answers) (hapart : Apart answers root)
    (hn : Mirrors source answers root depth) {m m' : Description}
    (hb : ∀ n ∈ names, Below answers root path n) (hroot : root.name ∈ path)
    (hm : Mirror answers root path p q) {o o'}
    (h : DemandedAll source (resolveWithin source depth) m names p o p')
    (h' : DemandedAll source.renamed (resolveWithin source.renamed depth) m' names q o' q') :
    Matched answers root path p' q' o o' := by
  induction h generalizing q o' with
  | nil =>
    cases h' with
    | nil => exact .ok [] hm
  | stopped hd =>
    obtain ⟨hb, -⟩ := List.forall_mem_cons.mp hb
    cases h' with
    | stopped hd' =>
      cases hd.mirror ha hapart hn hb hroot hm hd' with
      | error hs => exact .error hs
    | cons hd' => cases hd.mirror ha hapart hn hb hroot hm hd'
  | cons hd hr ih =>
    obtain ⟨hb, hbs⟩ := List.forall_mem_cons.mp hb
    cases h' with
    | stopped hd' => cases hd.mirror ha hapart hn hb hroot hm hd'
    | cons hd' hr' =>
      cases hd.mirror ha hapart hn hb hroot hm hd' with
      | ok d hm₁ =>
        have hreport (notices notices') :
            Mirror answers root path (Progress.report _ notices) (Progress.report _ notices') :=
          ⟨hm₁.declared, hm₁.asked, hm₁.get?⟩
        cases ih hbs (hreport _ _) hr' with
        | ok ds hm₂ => exact .ok _ hm₂
        | error hs => exact .error hs

/-- Settling a description, and settling it under the name of its module, is seen from the modules
that the root leads to as settling it under that name. -/
theorem Mirror.finish {r : Description} (hapart : Apart answers root)
    (hlead : Leads answers root name) (hd : declaredName answers root name = r.name)
    (hpend : p'.memo.pending = path.map (declaredName answers root) ++ [r.name])
    (hpend' : q'.memo.pending = path ++ [name])
    (hget : ∀ n, Leads answers root n → p'.memo.get? n = q'.memo.get? n) :
    Mirror answers root path ((p'.finish r).settle { r with name })
      (q'.finish { r with name }) where
  declared := by
    rw [Progress.memo_settle, Memo.pending_settle]
    exact Memo.pending_leave (by simpa using hpend)
  asked := Memo.pending_leave (by simpa using hpend')
  get? n hn := by
    have hown : r.name = n → name = n := fun h => hapart.own name n hlead hn (hd.trans h)
    simp only [Progress.memo_settle, Progress.memo_finish, Memo.get?_settle, Memo.get?_leave, hget n hn]
    by_cases hne : n = name
    · subst n
      by_cases hr : name = r.name
      · subst hr
        simp
      · simp [hr]
    · have hr : n ≠ r.name := fun h => hne (hown h.symm).symm
      simp [hne, hr]

/-- Modules that are not being resolved may be begun in both runs. -/
theorem Mirror.begin (hm : Mirror answers root path p q)
    (hd : descriptionOf answers root name = .ok d) :
    Mirror answers root (path ++ [name]) (p.begin d) (q.begin { d with name }) where
  declared := by simp [hm.declared, declaredName_of_ok hd]
  asked := by simp [hm.asked]
  get? := hm.get?

theorem Mirror.not_pending (hm : Mirror answers root path p q) (hapart : Apart answers root)
    (hb : Below answers root path name) (hd : descriptionOf answers root name = .ok d)
    (hmem : name ∉ path) : d.name ∉ p.memo.pending := by
  rw [hm.declared, ← declaredName_of_ok hd]
  exact mt (hb.mem_of_declared hapart) hmem

theorem mirrors (ha : source.Gives answers) (hapart : Apart answers root) (depth : Nat) :
    Mirrors source answers root depth := by
  induction depth with
  | zero =>
    intro name d path p q o p' o' q' hd hb hmem hroot hm h h'
    have hp := hm.not_pending hapart hb hd hmem
    cases resolved h with
    | cycle hc => exact absurd hc hp
    | tooDeep =>
      cases resolved h' with
      | cycle hc => exact absurd (hm.asked ▸ hc) hmem
      | tooDeep => exact .error (.inl rfl)
  | succ depth ih =>
    intro name d path p q o p' o' q' hd hb hmem hroot hm h h'
    have hp := hm.not_pending hapart hb hd hmem
    have hneeds : ∀ n ∈ d.needs, Below answers root (path ++ [name]) n := fun n => hb.step hd
    cases resolved h with
    | cycle hc => exact absurd hc hp
    | stopped _ hall =>
      cases resolved h' with
      | cycle hc => exact absurd (hm.asked ▸ hc) hmem
      | stopped _ hall' =>
        cases hall.mirror ha hapart ih hneeds hroot (hm.begin hd) hall' with
        | error hs => exact .error hs
      | done _ hall' => cases hall.mirror ha hapart ih hneeds hroot (hm.begin hd) hall'
    | @done _ ds p₁ _ hall =>
      cases resolved h' with
      | cycle hc => exact absurd (hm.asked ▸ hc) hmem
      | stopped _ hall' => cases hall.mirror ha hapart ih hneeds hroot (hm.begin hd) hall'
      | @done _ ds' q₁ _ hall' =>
        cases hall.mirror ha hapart ih hneeds hroot (hm.begin hd) hall' with
        | ok _ hm₁ =>
          have hclosure : q₁.memo.closureOf { d with name } = { p₁.memo.closureOf d with name } := by
            rw [Memo.closureOf_rename, Memo.closureOf_congr fun n hn => hm₁.get? n (hneeds n hn).leads]
          rw [hclosure]
          have hname : declaredName answers root name = (p₁.memo.closureOf d).name := by
            rw [declaredName_of_ok hd, Memo.name_closureOf]
          refine .ok (.finish hapart hb.leads hname ?_ hm₁.asked hm₁.get?)
          rw [hm₁.declared, List.map_append, List.map_singleton, hname]

/-- If the declared names are apart from all modules that the root leads to, they have no part in
the outcome: it is the same as if every description had the name that it is asked for by, except
that a cycle is told by declared names. -/
theorem resolveWithin_renamed (ha : source.Gives answers) (hapart : Apart answers root)
    (depth : Nat) (s s' : σ) :
    (resolveWithin source depth root { state := s }).1 =
      (resolveWithin source.renamed depth root { state := s' }).1 ∨
    ∃ cycle, (resolveWithin source depth root { state := s }).1 =
        .error (.failed (.cycle (cycle.map (declaredName answers root)))) ∧
      (resolveWithin source.renamed depth root { state := s' }).1 =
        .error (.failed (.cycle cycle)) := by
  have hm : Mirror answers root [] ({ state := s } : Progress σ) { state := s' } :=
    ⟨rfl, rfl, fun _ _ => rfl⟩
  have hb : Below answers root [] root.name := ⟨.refl, by simp⟩
  rcases h : resolveWithin source depth root { state := s } with ⟨o, p'⟩
  rcases h' : resolveWithin source.renamed depth root { state := s' } with ⟨o', q'⟩
  cases mirrors ha hapart depth descriptionOf_root hb List.not_mem_nil (by simp) hm h h' with
  | @ok r =>
    have hname : r.name = root.name := ((framed source depth h).2 r rfl).1
    rw [← hname]
    exact .inl rfl
  | error hs =>
    rcases hs with rfl | ⟨cycle, rfl, rfl⟩
    · exact .inl rfl
    · exact .inr ⟨cycle, rfl, rfl⟩

/-- A directory in which `a` declares a name that is no module's. -/
def foreign : Source Unit := Source.directory
  { root := .directory [("a.module", .ofText "Module: x\nDepends: c"), ("c.module", .ofText "Module: c")] }
  ⟨true, [""]⟩

def foreignRoot : Description := { name := "m", suggests := .ofNames ["a"] }

theorem resolveWithin_renamed_foreign :
    Apart (fun name => (foreign.fetch name ()).outcome) foreignRoot ∧
    (resolveWithin foreign 3 foreignRoot { state := () }).1 =
      .ok { name := "m", suggests := .ofNames ["a", "c"] } ∧
    (resolveWithin foreign.renamed 3 foreignRoot { state := () }).1 =
      .ok { name := "m", suggests := .ofNames ["a", "c"] } := by
  have hgives : foreign.Gives fun name => (foreign.fetch name ()).outcome := Source.gives_directory _ _
  have hapart : Apart (fun name => (foreign.fetch name ()).outcome) foreignRoot :=
    .of_known ["m", "a", "c"] (by decide) (by decide +kernel) (by decide +kernel) (by decide +kernel)
  have ho : (resolveWithin foreign 3 foreignRoot { state := () }).1 =
      .ok { name := "m", suggests := .ofNames ["a", "c"] } := by decide +kernel
  refine ⟨hapart, ho, ?_⟩
  rcases resolveWithin_renamed hgives hapart 3 () () with h | ⟨cycle, h, -⟩
  · rw [← h, ho]
  · cases ho.symm.trans h

/-- A directory in which `a` declares the name of another module. -/
def impostor : Disk where
  root := .directory [("a.module", .ofText "Module: b\nDepends: c"),
    ("b.module", .ofText "Module: b\nDepends: d"), ("c.module", .ofText "Module: c"),
    ("d.module", .ofText "Module: d")]

def impostorRoot : Description := { name := "m", depends := .ofNames ["a", "b"] }

/-- Declared names may change the outcome: `a` stands for `b`, and what `b` needs is missing. -/
theorem exists_stand_in :
    ¬ ∀ (disk : Disk) (directory : Disk.Path) (m : Description),
      (∃ r, (resolve (Source.directory disk directory) m { state := () }).1 = .ok r ∧
        (resolve (Source.directory disk directory).renamed m { state := () }).1 = .ok r) ∨
      ∃ f f', (resolve (Source.directory disk directory) m { state := () }).1 = .error f ∧
        (resolve (Source.directory disk directory).renamed m { state := () }).1 = .error f' := by
  intro h
  have ho : (resolve (Source.directory impostor ⟨true, [""]⟩) impostorRoot { state := () }).1.map
      (·.depends.toList) = .ok ["a", "b", "c"] := by decide +kernel
  have ho' : (resolve (Source.directory impostor ⟨true, [""]⟩).renamed impostorRoot
      { state := () }).1.map (·.depends.toList) = .ok ["a", "b", "c", "d"] := by decide +kernel
  rcases h impostor ⟨true, [""]⟩ impostorRoot with ⟨r, hr, hr'⟩ | ⟨f, f', hf, -⟩
  · rw [hr] at ho
    rw [hr', ho] at ho'
    exact absurd ho' (by decide)
  · rw [hf] at ho
    cases ho

end Closure
end ModuleClosure
