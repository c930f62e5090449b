import ModuleClosure.Settings

/-!
# Settings over settings

A setting counts as set where it differs from its default. Laying settings over others lets what is
set above win and keeps the rest, for all settings but two: the rotation below always stays, and
the directory below stays exactly if there is no log file above. Layers can be put together in any
grouping, and a layer that is there already changes nothing.
-/
namespace ModuleClosure

/-- What is set above wins over the rest, in any grouping of three layers. -/
theorem ite_unset_assoc {α : Type} [DecidableEq α] (unset a b c : α) :
    (if c = unset then if b = unset then a else b else c) =
      if (if c = unset then b else c) = unset then a else if c = unset then b else c := by
  by_cases hc : c = unset <;> simp [hc]

namespace NameMap

variable {α : Type}

theorem union_assoc (a b c : NameMap α) : a ∪ b ∪ c = a ∪ (b ∪ c) := by
  ext name value
  simp only [Std.ExtTreeMap.getElem?_union, Option.or_assoc]

theorem union_self (a : NameMap α) : a ∪ a = a := by
  ext name value
  simp only [Std.ExtTreeMap.getElem?_union, Option.or_self]

theorem union_empty (a : NameMap α) : a ∪ ∅ = a := by
  ext name value
  simp only [Std.ExtTreeMap.getElem?_union, Std.ExtTreeMap.getElem?_empty, Option.none_or]

end NameMap

namespace FetchSettings

theorem overlay_assoc (a b c : FetchSettings) :
    (a.overlay b).overlay c = a.overlay (b.overlay c) := by
  simp only [overlay, mk.injEq]
  exact ⟨Option.or_assoc.symm, ite_unset_assoc .., Option.or_assoc.symm⟩

theorem overlay_self (a : FetchSettings) : a.overlay a = a := by
  simp [overlay]

theorem overlay_default (a : FetchSettings) : a.overlay {} = a := by
  simp [overlay]

end FetchSettings

namespace LogSettings

/-- The directory goes with the log file, so the uppermost layer with a file decides. -/
theorem overlay_assoc (a b c : LogSettings) :
    (a.overlay b).overlay c = a.overlay (b.overlay c) := by
  simp only [overlay, mk.injEq, Bool.or_assoc, true_and, and_true]
  refine ⟨ite_unset_assoc .., ?_⟩
  by_cases hc : c.toFile <;> simp [hc]

theorem overlay_self (a : LogSettings) : a.overlay a = a := by
  simp [overlay]

theorem overlay_default (a : LogSettings) : a.overlay {} = a := by
  simp [overlay]

end LogSettings

namespace Settings

theorem overlay_assoc (a b c : Settings) :
    (a.overlay b).overlay c = a.overlay (b.overlay c) := by
  simp only [overlay, FetchSettings.overlay_assoc, LogSettings.overlay_assoc,
    NameMap.union_assoc, Bool.or_assoc]

theorem overlay_self (a : Settings) : a.overlay a = a := by
  simp only [overlay, FetchSettings.overlay_self, LogSettings.overlay_self, NameMap.union_self,
    Bool.or_self]

theorem overlay_default (a : Settings) : a.overlay {} = a := by
  simp only [overlay, FetchSettings.overlay_default, LogSettings.overlay_default,
    NameMap.union_empty, Bool.false_or]

/-- Layers make the same settings in any grouping. A layer that is put on a second time, settings
that are laid over themselves, and the defaults change nothing. -/
theorem overlay_layers (a b c : Settings) :
    (a.overlay b).overlay c = a.overlay (b.overlay c) ∧
      (a.overlay b).overlay b = a.overlay b ∧ a.overlay a = a ∧ a.overlay {} = a := by
  have htwice : (a.overlay b).overlay b = a.overlay b := by
    rw [overlay_assoc, overlay_self]
  exact ⟨overlay_assoc a b c, htwice, overlay_self a, overlay_default a⟩

section LaidOver

variable {α : Type} {setting : Settings → α} {base upper : Settings}

/-- Where `upper` differs from the default in a setting it has the say, and `base` everywhere
else. -/
structure LaidOver (setting : Settings → α) (base upper : Settings) : Prop where
  of_set : setting upper ≠ setting {} → setting (base.overlay upper) = setting upper
  of_unset : setting upper = setting {} → setting (base.overlay upper) = setting base

theorem laidOver_of_ite [DecidableEq α] (h : setting (base.overlay upper) =
    if setting upper = setting {} then setting base else setting upper) :
    LaidOver setting base upper where
  of_set hset := by rw [h, if_neg hset]
  of_unset hunset := by rw [h, if_pos hunset]

theorem laidOver_of_or {setting : Settings → Option α} (hdefault : setting {} = none)
    (h : setting (base.overlay upper) = (setting upper).or (setting base)) :
    LaidOver setting base upper where
  of_set hset := by
    obtain ⟨value, hvalue⟩ := Option.ne_none_iff_exists'.mp (hdefault ▸ hset)
    rw [h, hvalue, Option.some_or]
  of_unset hunset := by rw [h, hunset, hdefault, Option.none_or]

theorem laidOver_of_flag {setting : Settings → Bool} (hdefault : setting {} = false)
    (h : setting (base.overlay upper) = (setting upper || setting base)) :
    LaidOver setting base upper where
  of_set hset := by
    have htrue : setting upper = true := by simpa [hdefault] using hset
    rw [h, htrue, Bool.true_or]
  of_unset hunset := by rw [h, hunset, hdefault, Bool.false_or]

/-- A setting that always stays as it is below is laid over only where that makes no
difference. -/
theorem laidOver_iff_of_kept (h : setting (base.overlay upper) = setting base) :
    LaidOver setting base upper ↔ setting upper = setting {} ∨ setting upper = setting base := by
  constructor
  · intro hlaid
    by_cases hunset : setting upper = setting {}
    · exact .inl hunset
    · exact .inr ((hlaid.of_set hunset).symm.trans h)
  · rintro (hunset | hsame)
    · exact ⟨fun hset => absurd hunset hset, fun _ => h⟩
    · exact ⟨fun _ => h.trans hsame.symm, fun _ => h⟩

/-- A setting that always becomes what it is above is laid over only where none is lost. -/
theorem laidOver_iff_of_replaced (h : setting (base.overlay upper) = setting upper) :
    LaidOver setting base upper ↔ setting upper ≠ setting {} ∨ setting upper = setting base := by
  constructor
  · intro hlaid
    by_cases hunset : setting upper = setting {}
    · exact .inr (h.symm.trans (hlaid.of_unset hunset))
    · exact .inl hunset
  · rintro (hset | hsame)
    · exact ⟨fun _ => h, fun hunset => absurd hunset hset⟩
    · exact ⟨fun _ => h, fun _ => h.trans hsame⟩

end LaidOver

/-- A directory above counts with a log file above, and only there. -/
theorem laidOver_directory_iff (base upper : Settings) :
    LaidOver (·.logging.directory) base upper ↔
      upper.logging.directory.isSome = upper.logging.toFile ∨
        upper.logging.directory = base.logging.directory := by
  by_cases hfile : upper.logging.toFile
  · rw [laidOver_iff_of_replaced (by simp [overlay, LogSettings.overlay, hfile]), hfile]
    simp [Option.isSome_iff_ne_none]
  · rw [laidOver_iff_of_kept (by simp [overlay, LogSettings.overlay, hfile])]
    simp [hfile]

/-- Settings are laid over one by one, and maps entry by entry, but for two of the log. The rotation
is not where the one above is neither the default nor the one below. The directory is not where it
differs above and below and there is either a directory above without a log file or a log file above
without a directory. -/
theorem overlay_by_setting (base upper : Settings) :
    (LaidOver (·.fetch.workdir) base upper ∧ LaidOver (·.fetch.program) base upper ∧
      LaidOver (·.fetch.timeoutSeconds) base upper ∧ LaidOver (·.logging.level) base upper ∧
      LaidOver (·.logging.toFile) base upper ∧ LaidOver (·.logging.json) base upper ∧
      LaidOver (·.development) base upper) ∧
    (∀ name : String,
      (base.overlay upper).repositories[name]? =
        upper.repositories[name]?.or base.repositories[name]? ∧
      (base.overlay upper).hints[name]? = upper.hints[name]?.or base.hints[name]?) ∧
    (LaidOver (·.logging.rotation) base upper ↔
      upper.logging.rotation = "daily" ∨ upper.logging.rotation = base.logging.rotation) ∧
    (LaidOver (·.logging.directory) base upper ↔
      upper.logging.directory.isSome = upper.logging.toFile ∨
        upper.logging.directory = base.logging.directory) := by
  refine ⟨⟨laidOver_of_or rfl rfl, laidOver_of_ite rfl, laidOver_of_or rfl rfl,
    laidOver_of_ite rfl, laidOver_of_flag rfl rfl, laidOver_of_flag rfl rfl,
    laidOver_of_flag rfl rfl⟩, fun name => ?_, laidOver_iff_of_kept rfl,
    laidOver_directory_iff base upper⟩
  simp only [overlay, Std.ExtTreeMap.getElem?_union, and_self]

/-- A log file and its directory. -/
def filedLog : Settings where
  logging := { toFile := true, directory := some "/logs" }

/-- A log file without a directory, and another rotation than the default. -/
def hourlyLog : Settings where
  logging := { toFile := true, rotation := "hourly" }

/-- The rotation above is ignored, and the directory below is lost. -/
theorem exists_setting_lost :
    ¬ LaidOver (·.logging.rotation) filedLog hourlyLog ∧
      ¬ LaidOver (·.logging.directory) filedLog hourlyLog := by
  constructor
  · intro hrotation
    exact absurd (hrotation.of_set (by decide)) (by decide)
  · intro hdirectory
    exact absurd (hdirectory.of_unset (by decide)) (by decide)

end Settings
end ModuleClosure
