import ServerLaunch.Proofs.Querying
import ServerLaunch.Proofs.Validation

/-!
# Checking settings that are held

Settings can be assigned after they were made, and are then checked where they are held. A check
that finds something wrong must leave them alone: the registry is looked at as it was assigned,
and it loses the slashes at its end only when nothing is wrong. How many slashes these are makes
no difference to what is held afterwards or to where a registry is asked. It loses them a second
time there, which changes nothing more.

## Main definitions

* `Text.LongestPlain`: the longest prefix of a text that does not end in a character.
* `Settings.slashes`: a run of slashes.
* `Settings.firstFlaw`: what is reported where something is wrong.

**Main statements.** A check in place is the check of settings that are made, with the settings
left alone if it fails (`Settings.run_recheck`), and slashes at the end of a registry do not show
(`Settings.run_recheck_slashes`).
-/
namespace ServerLaunch

/-! ## The longest prefix without a character at its end -/

namespace Text

/-- A text is the longest prefix of another that does not end in a character. -/
structure LongestPlain (c : Char) (text kept : String) : Prop where
  begins : kept.toList <+: text.toList
  plain : kept.toList.getLast? ≠ some c
  longest : ∀ other : String, other.toList <+: text.toList → other.toList.getLast? ≠ some c →
    other.toList <+: kept.toList

variable {c : Char} {text : String}

/-- What is left of a text when the run of a character at its end is dropped. -/
theorem longestPlain_dropTrailing (c : Char) (text : String) :
    LongestPlain c text (dropTrailing c text) := by
  obtain ⟨n, split⟩ := toList_eq_dropTrailing_append c text
  refine ⟨⟨_, split.symm⟩, getLast?_dropTrailing c text, fun other within plain => ?_⟩
  rw [split] at within
  rcases List.prefix_or_prefix_of_prefix within (List.prefix_append _ _) with
    shorter | ⟨run, longer⟩
  · exact shorter
  · -- What a longer prefix has more belongs to the run, so it is nothing.
    rw [← longer, List.prefix_append_right_inj, List.prefix_replicate_iff] at within
    rw [← longer, within.2] at plain
    have nothing : run.length = 0 := by
      by_contra some_left
      exact plain (by simp [List.getLast?_replicate, some_left])
    have same : other.toList = (dropTrailing c text).toList := by
      rw [← longer, List.eq_nil_of_length_eq_zero nothing, List.append_nil]
    exact ⟨[], by rw [List.append_nil, same]⟩

/-- A run of the character more at the end is dropped as well. -/
theorem dropTrailing_append_replicate (n : Nat) :
    dropTrailing c (text ++ String.ofList (List.replicate n c)) = dropTrailing c text := by
  obtain ⟨m, split⟩ := toList_eq_dropTrailing_append c text
  apply String.toList_injective
  rw [toList_dropTrailing, String.toList_append, String.toList_ofList, split, List.append_assoc,
    List.replicate_append_replicate, rdropWhile_append_replicate (getLast?_dropTrailing c text)]

end Text

namespace Settings

variable {σ : Type}

/-! ## Registries with more slashes -/

/-- A run of slashes. -/
def slashes (n : Nat) : String := String.ofList (List.replicate n '/')

@[simp] theorem plainRegistry_slashes (registry : String) (n : Nat) :
    plainRegistry (registry ++ slashes n) = plainRegistry registry :=
  Text.dropTrailing_append_replicate n

@[simp] theorem plainRegistry_plainRegistry (registry : String) :
    plainRegistry (plainRegistry registry) = plainRegistry registry :=
  Text.dropTrailing_eq_self (Text.getLast?_dropTrailing '/' registry)

/-- Slashes at its end do not take its scheme from a registry. -/
theorem HasScheme.slashes {registry : String} (reached : HasScheme registry) (n : Nat) :
    HasScheme (registry ++ slashes n) := by
  obtain ⟨scheme, listed, start⟩ := reached
  refine ⟨scheme, listed, start.trans ?_⟩
  rw [String.toList_append]
  exact List.prefix_append _ _

/-- A query makes one request, at the address of the registry without the slashes at its end. -/
theorem events_latest_ofText (registry package : String) (timeout : Number.Binary64)
    (w : World σ) :
    (((Registry.ofText registry timeout).latest package).run w).events =
      [.request (plainRegistry registry ++ "/" ++ package ++ "/latest") timeout] := by
  rw [Registry.run_latest]
  rfl

/-! ## The check in place -/

/-- A check in place ends as the check of settings that are made does. It leaves what that
accepts, or the settings as they were. -/
theorem run_recheck (settings : Settings) :
    recheck.run settings =
      match validate settings with
      | .ok accepted => ⟨.ok (), accepted, []⟩
      | .error flaw => ⟨.error (.launch flaw.toLaunchError), settings, []⟩ := by
  cases spent : settings.timeout.atMostZero <;> cases reached : isHttp settings.registry <;>
    simp [recheck, validate, Action.run_bind, spent, reached]

/-- The flaw that a check reports where something is wrong: the one of the time-out, or if that
will do, the one of the registry. -/
def firstFlaw (settings : Settings) : SettingsFlaw :=
  if settings.timeout.atMostZero then .timeoutNotPositive settings.timeout
  else .registryNotHttp settings.registry

/-- A check in place refuses settings with something wrong, and leaves them alone. -/
theorem run_recheck_of_wrong {settings : Settings}
    (wrong : settings.timeout.atMostZero = true ∨ ¬ HasScheme settings.registry) :
    recheck.run settings = ⟨.error (.launch settings.firstFlaw.toLaunchError), settings, []⟩ := by
  rw [← isHttp_iff, Bool.not_eq_true] at wrong
  rw [run_recheck, validate, firstFlaw]
  cases spent : settings.timeout.atMostZero with
  | true => rfl
  | false =>
    have unreached : isHttp settings.registry = false := by simpa [spent] using wrong
    simp [unreached]

/-- A check in place accepts all other settings, and rewrites the registry. -/
theorem run_recheck_of_right {settings : Settings}
    (inTime : settings.timeout.atMostZero = false) (reached : HasScheme settings.registry) :
    recheck.run settings =
      ⟨.ok (), { settings with registry := plainRegistry settings.registry }, []⟩ := by
  rw [run_recheck, validate_eq_ok_iff.2 ⟨inTime, reached, rfl⟩]

/-- More slashes at the end of a registry that is accepted do not show. -/
theorem run_recheck_slashes {settings : Settings}
    (inTime : settings.timeout.atMostZero = false) (reached : HasScheme settings.registry)
    (n : Nat) :
    recheck.run { settings with registry := settings.registry ++ slashes n } =
      recheck.run settings := by
  have longer := @run_recheck_of_right
    { settings with registry := settings.registry ++ slashes n } inTime (reached.slashes n)
  rw [longer, run_recheck_of_right inTime reached, plainRegistry_slashes]

/-- **Checking settings in place.** Whatever was assigned, the check fails with an error about
the settings exactly if the time-out is at most zero or the registry has no scheme. It fails in
no other way; the error is the one for the time-out if both are wrong, and the settings are left
as they were. Otherwise only the registry is changed, to its longest prefix that does not end in
a slash. The same is left if there were more slashes at its end, and a query goes to the same
address whether it is given the registry as assigned, with more slashes, or as it is left. -/
theorem recheck_settles (settings : Settings) :
    let ended := recheck.run settings
    ((∃ report, ended.outcome = .error (.launch (.invalidSettings report))) ↔
      settings.timeout.atMostZero = true ∨ ¬ HasScheme settings.registry) ∧
    (∀ failure, ended.outcome = .error failure →
      failure = .launch settings.firstFlaw.toLaunchError ∧ ended.final = settings) ∧
    (ended.outcome = .ok () →
      ended.final = { settings with registry := ended.final.registry } ∧
      Text.LongestPlain '/' settings.registry ended.final.registry ∧
      ∀ n, let longer := settings.registry ++ slashes n
        recheck.run { settings with registry := longer } = ended ∧
        ∀ registry ∈ [settings.registry, longer, ended.final.registry],
          ∀ (timeout : Number.Binary64) (package : String) (w : World σ),
            (((Registry.ofText registry timeout).latest package).run w).events =
              [.request (ended.final.registry ++ "/" ++ package ++ "/latest") timeout]) := by
  intro ended
  by_cases wrong : settings.timeout.atMostZero = true ∨ ¬ HasScheme settings.registry
  · have refused : ended = _ := run_recheck_of_wrong wrong
    rw [refused]
    refine ⟨iff_of_true ⟨_, rfl⟩ wrong, ?_, fun accepted => nomatch accepted⟩
    rintro failure ⟨⟩
    exact ⟨rfl, rfl⟩
  · obtain ⟨inTime, reached⟩ : settings.timeout.atMostZero = false ∧
        HasScheme settings.registry := by simpa using wrong
    have accepted : ended = _ := run_recheck_of_right inTime reached
    refine ⟨iff_of_false ?_ wrong, ?_, fun _ => ?_⟩
    · rw [accepted]
      rintro ⟨report, ⟨⟩⟩
    · rw [accepted]
      exact fun failure refused => nomatch refused
    · have kept : ended.final.registry = plainRegistry settings.registry := by rw [accepted]
      refine ⟨by rw [accepted], kept ▸ Text.longestPlain_dropTrailing '/' settings.registry,
        fun n => ⟨run_recheck_slashes inTime reached n, ?_⟩⟩
      simp [events_latest_ofText, kept]

end Settings

end ServerLaunch
