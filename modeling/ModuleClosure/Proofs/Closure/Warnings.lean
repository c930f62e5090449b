import ModuleClosure.Proofs.Closure.Outcome
import ModuleClosure.Proofs.Closure.Preorder

/-!
# Warnings about bounds

A resolution from an empty memo over a table that succeeds settles each module once, and warns before
that of each direct need that does not meet the module's bound, whether it was settled before or not.
So all along the run the warnings that were given and those that settled modules owe are in balance,
but for the modules that are being resolved.
-/
namespace ModuleClosure

/-- Whether a notice warns that `y` does not meet the bound that `x` has for it. -/
def Notice.warnsOf (x y : String) : Notice → Bool
  | boundUnmet module dependency _ _ => x = module && y = dependency
  | _ => false

/-- How many notices warn that `y` does not meet the bound that `x` has for it. -/
def warnings (x y : String) (notices : List Notice) : Nat := notices.countP (Notice.warnsOf x y)

/-- Whether a description has a bound for a dependency that its version does not meet. A version
that cannot be compared is no reason for a warning. -/
def Description.rejects (m dependency : Description) : Bool :=
  match m.bounds[dependency.name]?, dependency.version with
  | some b, some version =>
    match b.admits version with
    | .ok accepted => !accepted
    | .error _ => false
  | _, _ => false

variable {x y : String}

@[simp] theorem warnings_append (notices notices' : List Notice) :
    warnings x y (notices ++ notices') = warnings x y notices + warnings x y notices' :=
  List.countP_append

theorem warnings_boundNotices (m d : Description) :
    warnings x y (m.boundNotices d) = if m.rejects d ∧ x = m.name ∧ y = d.name then 1 else 0 := by
  unfold Description.boundNotices Description.rejects
  cases m.bounds[d.name]? with
  | none => simp [warnings]
  | some b =>
    cases d.version with
    | none => simp [warnings]
    | some v =>
      cases hb : b.admits v with
      | error fault => simp [hb, warnings, Notice.warnsOf]
      | ok accepted => cases accepted <;> simp [hb, warnings, Notice.warnsOf]

namespace Graph

/-- The version of a module does not meet the bound that another module has for it. -/
def Unmet (w : NameMap Description) (x y : String) : Prop :=
  ∃ d e b v, w[x]? = some d ∧ w[y]? = some e ∧ d.bounds[y]? = some b ∧ e.version = some v ∧
    b.admits v = .ok false

/-- The warnings about a name that a description gives while names are asked for. -/
def due (w : NameMap Description) (m : Description) (names : List String) (y : String) : Nat :=
  match w[y]? with
  | some e => if m.rejects e then names.count y else 0
  | none => 0

variable {w : NameMap Description} {m e : Description} {name : String} {names : List String}

theorem due_eq (hy : w[y]? = some e) :
    due w m names y = if m.rejects e then names.count y else 0 := by
  simp [due, hy]

theorem due_of_not_mem (h : y ∉ names) : due w m names y = 0 := by
  unfold due
  split <;> simp [List.count_eq_zero.mpr h]

theorem due_cons : due w m (name :: names) y = due w m [name] y + due w m names y := by
  unfold due
  cases w[y]? with
  | none => rfl
  | some e =>
    dsimp only
    split
    · rw [List.count_cons, List.count_singleton, Nat.add_comm]
    · rfl

/-- A closure has the name and the version of what it closes. -/
theorem IsClosure.rejects (h : IsClosure w name e) {d : Description} (hd : w[name]? = some d) :
    m.rejects e = m.rejects d := by
  obtain ⟨d', hd', he⟩ := h.unresolved
  cases hd.symm.trans hd'
  rw [he]
  rfl

end Graph

namespace Closure
open Relation ModuleClosure.Graph

variable {modules w : NameMap Description} {m d : Description} {name : String}
  {names : List String} {memo memo' : Memo} {p p₁ p' : Progress (List String)}
  {nested : Description → Step (List String) Description}

theorem unmet_iff (hown : Named w) (hx : w[x]? = some m) (hy : w[y]? = some d) :
    Unmet w x y ↔ m.rejects d = true := by
  obtain rfl := hown hy
  unfold Unmet Description.rejects
  simp only [hx, hy, Option.some.injEq, exists_and_left, exists_eq_left']
  constructor
  · rintro ⟨b, hb, v, hv, h⟩
    simp [hb, hv, h]
  · intro h
    split at h
    · rename_i b v hb hv
      refine ⟨b, hb, v, hv, ?_⟩
      split at h
      · rename_i accepted hadmits
        obtain rfl : accepted = false := by simpa using h
        exact hadmits
      · cases h
    · cases h

/-- What comes back for a name is warned of as its description in the table would be. -/
theorem warnings_closure (hown : Named w) (hd : IsClosure w name d) :
    warnings x y (m.boundNotices d) = if x = m.name then due w m [name] y else 0 := by
  obtain ⟨e, he, hde⟩ := hd.unresolved
  have hname : d.name = name := (congrArg Description.name hde).trans (show e.name = name from hown he)
  rw [warnings_boundNotices, hd.rejects he, hname]
  by_cases hy : y = name
  · subst y
    rw [due_eq he, List.count_singleton_self]
    by_cases hx : x = m.name <;> simp [hx]
  · have hzero : due w m [name] y = 0 := due_of_not_mem (by simpa using hy)
    simp [hy, hzero]

/-- The warnings of `x` about `y` that a memo owes: those for all that `x` needs, once it is
settled. -/
def owed (w : NameMap Description) (x y : String) (memo : Memo) : Nat :=
  match w[x]? with
  | some d => if memo.contains x then due w d d.needs y else 0
  | none => 0

theorem owed_congr (h : memo'.get? x = memo.get? x) : owed w x y memo' = owed w x y memo := by
  have hcontains : memo'.contains x = memo.contains x :=
    Bool.eq_iff_iff.mpr (by rw [Memo.contains_iff, Memo.contains_iff, Memo.Settled, Memo.Settled, h])
  rw [owed, owed, hcontains]

theorem owed_of_unsettled (h : memo.get? x = none) : owed w x y memo = 0 := by
  have hcontains : memo.contains x = false :=
    Bool.eq_false_iff.mpr (mt Memo.contains_iff.mp (Memo.not_settled.mpr h))
  unfold owed
  split <;> simp [hcontains]

theorem owed_of_settled (hx : w[x]? = some m) (h : memo.Settled x) :
    owed w x y memo = due w m m.needs y := by
  simp [owed, hx, Memo.contains_iff.mpr h]

/-- What is owed is for a need of a settled module whose bound is not met. -/
theorem owed_eq_zero (hown : Named w) (h : ¬ (memo.Settled x ∧ Unmet w x y ∧ Needs w x y)) :
    owed w x y memo = 0 := by
  by_cases hs : memo.Settled x
  · cases hx : w[x]? with
    | none => simp [owed, hx]
    | some d =>
      rw [owed_of_settled hx hs]
      cases hy : w[y]? with
      | none => simp [due, hy]
      | some e =>
        rw [due_eq hy]
        split
        · rename_i hrejects
          have hunmet := (unmet_iff hown hx hy).mpr hrejects
          exact List.count_eq_zero.mpr fun hmem => h ⟨hs, hunmet, (needs_iff hx).mpr hmem⟩
        · rfl
  · exact owed_of_unsettled (Memo.not_settled.mp hs)

/-- A part of a resolution gives the warnings that become owed, and `extra` ones. -/
def Balanced (w : NameMap Description) (x y : String) (extra : Nat)
    (p p' : Progress (List String)) : Prop :=
  warnings x y p'.notices + owed w x y p.memo =
    warnings x y p.notices + owed w x y p'.memo + extra

theorem Balanced.trans {k k' : Nat} (h : Balanced w x y k p p₁) (h' : Balanced w x y k' p₁ p') :
    Balanced w x y (k + k') p p' := by
  unfold Balanced at *
  omega

theorem balanced_report (p : Progress (List String)) (notices : List Notice) :
    Balanced w x y (warnings x y notices) p (p.report notices) := by
  simp only [Balanced, Progress.report, warnings_append]
  omega

/-- A way to resolve over a table that warns of the needs of what it settles. -/
def Tallies (modules w : NameMap Description) (x y : String)
    (nested : Description → Step (List String) Description) : Prop :=
  ∀ ⦃m p r p'⦄, nested m p = (.ok r, p') → w[m.name]? = some m → m.name ∉ p.memo.pending →
    Serves modules w (p.memo.pending ++ [m.name]) → Faithful w p.memo →
      p.memo.get? m.name = none → Balanced w x y 0 p p'

theorem Demanded.tallies (hframed : Framed nested) (hn : Tallies modules w x y nested) {d}
    (h : Demanded (Source.table modules) nested name p (.ok d) p')
    (hserves : Serves modules w p.memo.pending) (hp : Faithful w p.memo) :
    Balanced w x y 0 p p' := by
  rcases h.cases_of_ok hframed hserves with ⟨-, rfl⟩ | ⟨m, r, hw, rfl, hpend, hs, hr, -⟩
  · rfl
  · have hreceive : Balanced w x y 0 p
        (p.receive m.name ((Source.table modules).fetch m.name p.state)) := by
      simp [Balanced, Progress.receive, Source.table, owed, Memo.contains, Memo.request]
    exact hreceive.trans (hn hr hw hpend (hserves.append _) (hp.congr fun _ => rfl) hs)

theorem DemandedAll.tallies (hframed : Framed nested) (hn : Tallies modules w x y nested)
    (hfollows : Follows modules w nested) {ds}
    (h : DemandedAll (Source.table modules) nested m names p (.ok ds) p')
    (hserves : Serves modules w p.memo.pending) (hp : Faithful w p.memo) :
    Balanced w x y (if x = m.name then due w m names y else 0) p p' := by
  induction h using DemandedAll.induction_ok with
  | nil p => simp [Balanced, due_of_not_mem]
  | @cons _ _ p d p₁ _ _ hd hr ih =>
    obtain ⟨hfaith, htraced⟩ := hd.traced hframed hfollows hserves hp
    cases htraced with
    | closed hclosed hs =>
      have hpend : p₁.memo.pending = p.memo.pending := (hd.frame hframed).pending
      have hfirst := hd.tallies hframed hn hserves hp
      have hreport := balanced_report (w := w) (x := x) (y := y) p₁ (m.boundNotices d)
      rw [warnings_closure hserves.own hclosed] at hreport
      have hrest := ih (by rwa [Progress.memo_report, hpend]) hfaith
      have hall := (hfirst.trans hreport).trans hrest
      rw [Nat.zero_add] at hall
      split at hall <;> rename_i hx
      · rwa [if_pos hx, due_cons]
      · rwa [if_neg hx]

theorem tallies (modules w : NameMap Description) (x y : String) (depth : Nat) :
    Tallies modules w x y (resolveWithin (Source.table modules) depth) := by
  induction depth with
  | zero =>
    intro m p r p' h
    cases resolved h
  | succ depth ih =>
    intro m p r p' h hw hpend hserves hp hs
    cases resolved h with
    | @done _ ds p₁ _ ha =>
      have hframed := framed (Source.table modules) depth
      have hneeds := ha.tallies hframed ih (follows modules w depth) hserves (hp.congr fun _ => rfl)
      have hnone : p₁.memo.get? m.name = none := (ha.frame hframed).unsettled (by simp) hs
      have hbegin : warnings x y (p.begin m).notices = warnings x y p.notices := by
        simp [Progress.begin, Progress.report, Progress.enter, warnings, Notice.warnsOf]
      have hfinish : warnings x y (p₁.finish (p₁.memo.closureOf m)).notices =
          warnings x y p₁.notices := by
        simp [Progress.finish, Progress.report, Progress.settle, Progress.leave, warnings,
          Notice.warnsOf]
      have howed : owed w x y (p.begin m).memo = owed w x y p.memo := owed_congr rfl
      unfold Balanced at hneeds ⊢
      rw [hbegin, howed] at hneeds
      rw [hfinish, hneeds, Nat.add_zero, Nat.add_assoc]
      congr 1
      -- Only the module itself is settled by the last step, and then owes what was given for it.
      by_cases hx : x = m.name
      · subst x
        have hset : (p₁.finish (p₁.memo.closureOf m)).memo.Settled m.name := by
          change (p₁.memo.settle (p₁.memo.closureOf m)).Settled m.name
          exact Memo.settled_settle.mpr (.inr rfl)
        rw [if_pos rfl, owed_of_unsettled hnone, owed_of_settled hw hset, Nat.zero_add]
      · rw [if_neg hx, Nat.add_zero]
        refine (owed_congr ?_).symm
        simp [Memo.get?_settle, hx]

/-- Both lists of a description are without repetition. -/
theorem count_needs (m : Description) (y : String) :
    m.needs.count y = (if y ∈ m.depends then 1 else 0) + if y ∈ m.suggests then 1 else 0 := by
  have hnodup (names : NameSet) : names.toList.Nodup := by
    refine List.nodup_iff_pairwise_ne.mpr ((pairwise_toList names).imp ?_)
    rintro _ _ h rfl
    exact String.lt_irrefl _ h
  rw [Description.needs, List.count_append, (hnodup _).count, (hnodup _).count]
  simp only [Std.ExtTreeSet.mem_toList]

theorem resolve_owed (ds : List Description) (asked : List String) (m : Description) {r}
    (h : resolve (Source.table (Source.tableOf ds)) m { state := asked } = (.ok r, p'))
    (x y : String) :
    warnings x y p'.notices = owed (rooted (Source.tableOf ds) m) x y p'.memo := by
  have hbalanced := tallies (Source.tableOf ds) (rooted (Source.tableOf ds) m) x y _ h
    getElem?_rooted_self (by simp) (serves_rooted (named_tableOf ds)) .empty (Memo.get?_empty _)
  unfold Balanced at hbalanced
  rw [owed_of_unsettled (Memo.get?_empty x)] at hbalanced
  simpa [warnings] using hbalanced

/-- A resolution from an empty memo that succeeds warns of a bound that is not met once for each of
the lists of its module that name the dependency, and gives no other such warnings. -/
theorem resolve_warnings (ds : List Description) (asked : List String) (m : Description) {r}
    (h : resolve (Source.table (Source.tableOf ds)) m { state := asked } = (.ok r, p'))
    (x y : String) :
    (∀ d, (rooted (Source.tableOf ds) m)[x]? = some d →
      ReflTransGen (Needs (rooted (Source.tableOf ds) m)) m.name x →
      Unmet (rooted (Source.tableOf ds) m) x y →
      warnings x y p'.notices =
        (if y ∈ d.depends then 1 else 0) + if y ∈ d.suggests then 1 else 0) ∧
    (¬ (ReflTransGen (Needs (rooted (Source.tableOf ds) m)) m.name x ∧
        Unmet (rooted (Source.tableOf ds) m) x y) → warnings x y p'.notices = 0) ∧
    (¬ Needs (rooted (Source.tableOf ds) m) x y → warnings x y p'.notices = 0) := by
  generalize hw : rooted (Source.tableOf ds) m = w
  have hown : Named w := hw ▸ (serves_rooted (named_tableOf ds)).own
  have howed : warnings x y p'.notices = owed w x y p'.memo := hw ▸ resolve_owed ds asked m h x y
  have hsettled : p'.memo.Settled x ↔ ReflTransGen (Needs w) m.name x :=
    hw ▸ resolve_settled_iff ds asked m h
  have hzero (hno : ¬ (p'.memo.Settled x ∧ Unmet w x y ∧ Needs w x y)) :
      warnings x y p'.notices = 0 := howed.trans (owed_eq_zero hown hno)
  refine ⟨fun d hx hreach hunmet => ?_, fun hno => hzero ?_, fun hno => hzero fun h => hno h.2.2⟩
  · have ⟨_, e, _, _, _, hy, _⟩ := hunmet
    rw [howed, owed_of_settled hx (hsettled.mpr hreach), due_eq hy,
      if_pos ((unmet_iff hown hx hy).mp hunmet), count_needs]
  · rintro ⟨hs, hunmet, -⟩
    exact hno ⟨hsettled.mp hs, hunmet⟩

/-- The version of `b` is too low for `a`, which names it twice, and for the root; that of `c` is too
low for the root, which needs it only through `a`. -/
def lagging : List Description :=
  [{ name := "a", depends := .ofNames ["b", "c"], suggests := .ofNames ["b"],
      bounds := .ofEntries [("b", ⟨.atLeast, "2.0"⟩)] },
    { name := "b", version := some "1.5" }, { name := "c", version := some "1.0" }]

def laggingRoot : Description where
  name := "m"
  depends := .ofNames ["a", "b"]
  bounds := .ofEntries [("b", ⟨.atLeast, "3.0"⟩), ("c", ⟨.above, "1.0"⟩)]

theorem resolve_warnings_lagging : ∃ r p',
    resolve (Source.table (Source.tableOf lagging)) laggingRoot { state := [] } = (.ok r, p') ∧
    warnings "a" "b" p'.notices = 2 ∧ warnings "m" "b" p'.notices = 1 ∧
    warnings "m" "c" p'.notices = 0 := by
  have hok : (resolve (Source.table (Source.tableOf lagging)) laggingRoot
      { state := [] }).1.isOk = true := by decide +kernel
  rcases h : resolve (Source.table (Source.tableOf lagging)) laggingRoot { state := [] } with ⟨o, p'⟩
  rw [h] at hok
  cases o with
  | error stop => cases hok
  | ok r =>
    have ha : (rooted (Source.tableOf lagging) laggingRoot)["a"]? = lagging.head? := by rfl
    have hunmet (x : String) (hx : x = "a" ∨ x = "m") :
        Unmet (rooted (Source.tableOf lagging) laggingRoot) x "b" := by
      rcases hx with rfl | rfl <;> exact ⟨_, _, _, _, rfl, rfl, rfl, rfl, rfl⟩
    refine ⟨r, p', rfl, ?_, ?_, ?_⟩
    · exact (resolve_warnings lagging [] laggingRoot h "a" "b").1 _ ha
        (.single (.inl ⟨laggingRoot, rfl, by decide⟩)) (hunmet "a" (.inl rfl))
    · exact (resolve_warnings lagging [] laggingRoot h "m" "b").1 laggingRoot rfl .refl
        (hunmet "m" (.inr rfl))
    · refine (resolve_warnings lagging [] laggingRoot h "m" "c").2.2 ?_
      rw [needs_iff (m := laggingRoot) rfl]
      decide

end Closure
end ModuleClosure
