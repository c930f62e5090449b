import ModuleClosure.Proofs.Closure.Reachable
import ModuleClosure.Proofs.Source.Directory

/-!
# Resolutions end

A source that declares finitely many names lets every resolution end, although it may be asked for a
name again while the description of that name is being resolved under another one. The depth counts
the resolutions inside one another; once there is enough of it, more of it changes nothing.
-/
namespace ModuleClosure.Closure

variable {σ : Type} {source : Source σ} {nested nested' : Description → Step σ Description}
  {m : Description} {name : String} {names known : List String} {depth depth' : Nat}
  {p p' : Progress σ}

private theorem error_ne_tooDeep {α β : Type} {stop : Stop}
    (h : (.error stop : Except Stop α) ≠ .error .tooDeep) :
    (.error stop : Except Stop β) ≠ .error .tooDeep :=
  fun he => h (by cases he; rfl)

/-- A way to resolve with which another one agrees where that has depth enough. -/
def Deeper (nested nested' : Description → Step σ Description) : Prop :=
  ∀ ⦃m p o p'⦄, nested m p = (o, p') → o ≠ .error .tooDeep → nested' m p = (o, p')

theorem demand_deeper (hn : Deeper nested nested') {o}
    (h : demand source nested name p = (o, p')) (ho : o ≠ .error .tooDeep) :
    demand source nested' name p = (o, p') := by
  cases hs : p.memo.get? name with
  | some d => simpa only [demand, hs] using h
  | none =>
    by_cases hp : name ∈ p.memo.pending
    · simpa only [demand, hs, hp, if_true] using h
    simp only [demand, hs, hp, if_false] at h ⊢
    cases hf : (source.fetch name p.state).outcome with
    | error f => simpa only [hf] using h
    | ok found =>
      simp only [hf] at h ⊢
      rcases hr : nested found (p.receive name (source.fetch name p.state)) with ⟨o₁, p₁⟩
      have ho₁ : o₁ ≠ .error .tooDeep := by
        rintro rfl
        simp only [hr, Prod.mk.injEq] at h
        exact ho h.1.symm
      simpa only [hr, hn hr ho₁] using h

theorem demandAll_deeper (hn : Deeper nested nested') {o}
    (h : demandAll source nested m names p = (o, p')) (ho : o ≠ .error .tooDeep) :
    demandAll source nested' m names p = (o, p') := by
  induction names generalizing p o p' with
  | nil => exact h
  | cons name names ih =>
    unfold demandAll at h ⊢
    rcases hd : demand source nested name p with ⟨o₁, p₁⟩
    cases o₁ with
    | error stop =>
      simp only [hd, Prod.mk.injEq] at h
      obtain ⟨rfl, rfl⟩ := h
      rw [demand_deeper hn hd (error_ne_tooDeep ho)]
    | ok d =>
      rw [demand_deeper hn hd (by simp)]
      simp only [hd] at h
      rcases hr : demandAll source nested m names (p₁.report (m.boundNotices d)) with ⟨o₂, p₂⟩
      have ho₂ : o₂ ≠ .error .tooDeep := by
        rintro rfl
        simp only [hr, Prod.mk.injEq] at h
        exact ho h.1.symm
      simpa only [hr, ih hr ho₂] using h

theorem close_deeper (hn : Deeper nested nested') {o}
    (h : close source nested m p = (o, p')) (ho : o ≠ .error .tooDeep) :
    close source nested' m p = (o, p') := by
  unfold close at h ⊢
  dsimp only at h ⊢
  rcases hr : demandAll source nested m m.depends.toList
    (p.report [.closureBegun m.name m.depends.size m.suggests.size]) with ⟨o₁, p₁⟩
  cases o₁ with
  | error stop =>
    simp only [hr, Prod.mk.injEq] at h
    obtain ⟨rfl, rfl⟩ := h
    rw [demandAll_deeper hn hr (error_ne_tooDeep ho)]
  | ok required =>
    rw [demandAll_deeper hn hr nofun]
    simp only [hr] at h
    rcases hs : demandAll source nested m m.suggests.toList p₁ with ⟨o₂, p₂⟩
    have ho₂ : o₂ ≠ .error .tooDeep := by
      rintro rfl
      simp only [hs, Prod.mk.injEq] at h
      exact ho h.1.symm
    simpa only [hs, demandAll_deeper hn hs ho₂] using h

theorem deeper_succ (source : Source σ) (depth : Nat) :
    Deeper (resolveWithin source depth) (resolveWithin source (depth + 1)) := by
  induction depth with
  | zero =>
    intro m p o p' h ho
    unfold resolveWithin at h ⊢
    split at h
    · rwa [if_pos ‹_›]
    · cases h
      exact absurd rfl ho
  | succ depth ih =>
    intro m p o p' h ho
    unfold resolveWithin at h ⊢
    split at h
    · rwa [if_pos ‹_›]
    · rw [if_neg ‹_›]
      rcases hc : close source (resolveWithin source depth) m (p.enter m.name) with ⟨o₁, p₁⟩
      simp only [hc, Prod.mk.injEq] at h
      obtain ⟨rfl, rfl⟩ := h
      simp only [close_deeper ih hc ho]

/-- More depth than is needed changes nothing. -/
theorem resolveWithin_of_le (hle : depth ≤ depth') {o}
    (h : resolveWithin source depth m p = (o, p')) (ho : o ≠ .error .tooDeep) :
    resolveWithin source depth' m p = (o, p') := by
  induction hle with
  | refl => exact h
  | step _ ih => exact deeper_succ source _ ih ho

/-- If the names that a source declares are finitely many, a resolution ends with a result or a
failure as soon as its depth is the number of these names and the root's, and more depth changes
nothing. Whenever a resolution is begun, those around it are at most that many, and fewer unless it
is one of a pending name, which is refused. -/
theorem resolveWithin_finishes (hdecl : Declares source known) (hp : Reachable p.memo)
    (m : Description) :
    (∃ o p', ((∃ r, o = .ok r) ∨ ∃ f, o = .error (.failed f)) ∧
      (∀ depth, (m.name :: known).toFinset.card ≤ depth →
        resolveWithin source depth m p = (o, p')) ∧
      (known.toFinset.card ≤ source.reach → resolve source m p = (o, p'))) ∧
    ∀ depth outer d q, Inside source depth m p outer d q →
      outer.length ≤ (m.name :: known).toFinset.card ∧
      (d.name ∉ q.memo.pending → outer.length < (m.name :: known).toFinset.card) := by
  refine ⟨?_, fun depth outer d q h => h.length_le hdecl hp.pending⟩
  rcases h : resolveWithin source (m.name :: known).toFinset.card m p with ⟨o, p'⟩
  have hdeep : o ≠ .error .tooDeep := resolveWithin_ne_tooDeep_of_card hdecl le_rfl hp.pending h
  have hmore (depth : Nat) (hle : (m.name :: known).toFinset.card ≤ depth) :
      resolveWithin source depth m p = (o, p') := resolveWithin_of_le hle h hdeep
  refine ⟨o, p', ?_, hmore, fun hreach => hmore _ ?_⟩
  · cases o with
    | ok r => exact .inl ⟨r, rfl⟩
    | error stop =>
      cases stop with
      | failed f => exact .inr ⟨f, rfl⟩
      | tooDeep => exact absurd rfl hdeep
  · rw [List.toFinset_cons]
    exact (Finset.card_insert_le _ _).trans (Nat.succ_le_succ hreach)

/-- A disk with two modules that need one another and declare other names. -/
def whirl : Disk where
  root := .directory [("a.module", .ofText "Module: x\nDepends: b"),
    ("b.module", .ofText "Module: y\nSuggests: a")]

def whirlRoot : Description := { name := "m", depends := .ofNames ["a"] }

/-- Three resolutions are inside one another: of the root and of the two declared names. -/
theorem resolveWithin_finishes_whirl :
    Declares (Source.directory whirl ⟨true, [""]⟩) ["x", "y"] ∧ Reachable ({} : Memo) ∧
    (resolveWithin (Source.directory whirl ⟨true, [""]⟩) 2 whirlRoot { state := () }).1 =
      .error .tooDeep ∧
    (∀ depth, 3 ≤ depth →
      (resolveWithin (Source.directory whirl ⟨true, [""]⟩) depth whirlRoot { state := () }).1 =
        .error (.failed (.cycle ["x", "y", "x"]))) ∧
    (resolve (Source.directory whirl ⟨true, [""]⟩) whirlRoot { state := () }).1 =
      .error (.failed (.cycle ["x", "y", "x"])) := by
  have hnames : Source.declaredNames whirl = ["x", "y"] := by decide +kernel
  have hdecl : Declares (Source.directory whirl ⟨true, [""]⟩) ["x", "y"] :=
    hnames ▸ Source.declares_directory whirl _
  have hcycle : (resolveWithin (Source.directory whirl ⟨true, [""]⟩) 3 whirlRoot
      { state := () }).1 = .error (.failed (.cycle ["x", "y", "x"])) := by decide +kernel
  obtain ⟨⟨o, p', -, hmore, hresolve⟩, -⟩ :=
    resolveWithin_finishes hdecl (p := { state := () }) .empty whirlRoot
  have ho : o = .error (.failed (.cycle ["x", "y", "x"])) := by
    rw [← hcycle, hmore 3 (by decide)]
  refine ⟨hdecl, .empty, by decide +kernel, fun depth hdepth => ?_, ?_⟩
  · rw [hmore depth hdepth, ho]
  · rw [hresolve (by decide +kernel), ho]

end ModuleClosure.Closure
