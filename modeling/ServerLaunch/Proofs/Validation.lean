import Mathlib.Data.List.DropRight
import ServerLaunch.Settings

/-!
# Valid settings

Settings are checked when they are made, and what comes out of the check is used: a registry
without the slashes at its end. What was accepted should still be acceptable, or settings that
are checked a second time are refused although nobody touched them. A registry is looked at
before it loses its slashes, so this holds unless the slashes that it loses are those of its
scheme. `https://` is accepted, and what is left of it is no registry.

## Main definitions

* `Settings.HasScheme`: a registry is reached by a scheme.
* `Settings.NoHost`: nothing but slashes follows the scheme.
* `Settings.Made`: settings come from a registry, given or read.

**Main statements.** The scheme is lost exactly if no host follows it
(`hasScheme_plainRegistry_iff`); a check is settled by the time-out and the scheme
(`validate_eq_ok_iff`).
-/
namespace ServerLaunch

/-! ## Runs of a character at the end -/

namespace Text

variable {c : Char} {front : List Char}

/-- A run of a character is dropped down to what comes before it. -/
theorem rdropWhile_append_replicate (plain : front.getLast? ≠ some c) (n : Nat) :
    (front ++ List.replicate n c).rdropWhile (· == c) = front := by
  induction n with
  | zero =>
    rw [List.replicate_zero, List.append_nil, List.rdropWhile_eq_self_iff]
    intro nonempty last
    exact plain (by rw [List.getLast?_eq_getLast_of_ne_nil nonempty, eq_of_beq last])
  | succ n ih =>
    rw [List.replicate_succ', ← List.append_assoc, List.rdropWhile_concat_pos _ _ _ (by simp), ih]

variable (c) (text : String)

theorem toList_dropTrailing :
    (dropTrailing c text).toList = text.toList.rdropWhile (· == c) := by
  rw [dropTrailing, String.toList_ofList]
  rfl

/-- The character is not left at the end. -/
theorem getLast?_dropTrailing : (dropTrailing c text).toList.getLast? ≠ some c := by
  rw [toList_dropTrailing]
  intro last
  have nonempty : text.toList.rdropWhile (· == c) ≠ [] := by
    intro void
    simp [void] at last
  rw [List.getLast?_eq_getLast_of_ne_nil nonempty, Option.some.injEq] at last
  exact List.rdropWhile_last_not _ _ nonempty (beq_iff_eq.2 last)

/-- A text is what is left of it, with the run of the character that was at its end. -/
theorem toList_eq_dropTrailing_append :
    ∃ n, text.toList = (dropTrailing c text).toList ++ List.replicate n c := by
  refine ⟨(text.toList.rtakeWhile (· == c)).length, ?_⟩
  have run : text.toList.rtakeWhile (· == c) =
      List.replicate (text.toList.rtakeWhile (· == c)).length c :=
    List.eq_replicate_of_mem fun _ inside =>
      eq_of_beq (List.mem_rtakeWhile_imp (p := (· == c)) inside)
  rw [toList_dropTrailing, ← run, List.rdropWhile_append_rtakeWhile]

variable {c text}

/-- A text that does not end in the character stays as it is. -/
theorem dropTrailing_eq_self (plain : text.toList.getLast? ≠ some c) :
    dropTrailing c text = text := by
  apply String.toList_injective
  rw [toList_dropTrailing]
  simpa using rdropWhile_append_replicate plain 0

/-- A prefix that ends in a run of the character is still there when the run at the end is
gone, or the two runs are the same and what comes before them is left. -/
theorem prefix_dropTrailing_or_eq {n : Nat} (plain : front.getLast? ≠ some c)
    (h : front ++ List.replicate n c <+: text.toList) :
    front ++ List.replicate n c <+: (dropTrailing c text).toList ∨
      (dropTrailing c text).toList = front := by
  obtain ⟨m, split⟩ := toList_eq_dropTrailing_append c text
  have kept := getLast?_dropTrailing c text
  generalize (dropTrailing c text).toList = rest at split kept ⊢
  rw [split] at h
  rcases List.prefix_or_prefix_of_prefix h (List.prefix_append rest _) with whole | ⟨run, cut⟩
  · exact .inl whole
  · -- What the prefix has beyond the rest belongs to the run at the end.
    rw [← cut, List.prefix_append_right_inj] at h
    rw [(List.prefix_replicate_iff.1 h).2] at cut
    refine .inr ?_
    rw [← rdropWhile_append_replicate kept run.length, cut, rdropWhile_append_replicate plain]

end Text

namespace Settings

/-! ## Registries -/

/-- The schemes by which a registry is reached. -/
def schemes : List String := ["http:", "https:"]

/-- A registry begins with a scheme and two slashes. -/
def HasScheme (registry : String) : Prop :=
  ∃ scheme ∈ schemes, scheme.toList ++ List.replicate 2 '/' <+: registry.toList

/-- Nothing but slashes follows the scheme of a registry. -/
def NoHost (registry : String) : Prop :=
  ∃ scheme ∈ schemes, ∃ slashes, registry.toList = scheme.toList ++ List.replicate slashes '/'

/-- A scheme does not end in a slash. -/
theorem getLast?_of_mem_schemes : ∀ scheme ∈ schemes, scheme.toList.getLast? ≠ some '/' := by
  decide

/-- A scheme alone is not enough. -/
theorem not_hasScheme_of_mem_schemes : ∀ scheme ∈ schemes, ¬ HasScheme scheme := by
  unfold HasScheme
  decide

/-- What the check of a registry asks. -/
theorem isHttp_iff {registry : String} : isHttp registry = true ↔ HasScheme registry := by
  simp only [isHttp, HasScheme, schemes, Bool.or_eq_true, List.isPrefixOf_iff_prefix,
    List.mem_cons, List.not_mem_nil, or_false, exists_eq_or_imp, exists_eq_left]
  rfl

/-- A registry loses its slashes down to the scheme exactly if no host follows it. -/
theorem plainRegistry_mem_schemes_iff {registry : String} :
    plainRegistry registry ∈ schemes ↔ NoHost registry := by
  constructor
  · intro left
    exact ⟨_, left, Text.toList_eq_dropTrailing_append '/' registry⟩
  · rintro ⟨scheme, listed, slashes, split⟩
    suffices plainRegistry registry = scheme from this ▸ listed
    apply String.toList_injective
    rw [plainRegistry, Text.toList_dropTrailing, split,
      Text.rdropWhile_append_replicate (getLast?_of_mem_schemes _ listed)]

/-- The scheme of a registry is lost with the slashes at its end exactly if no host follows
it. -/
theorem hasScheme_plainRegistry_iff {registry : String} (reached : HasScheme registry) :
    HasScheme (plainRegistry registry) ↔ ¬ NoHost registry := by
  rw [← plainRegistry_mem_schemes_iff]
  constructor
  · exact fun kept alone => not_hasScheme_of_mem_schemes _ alone kept
  · intro more
    obtain ⟨scheme, listed, start⟩ := reached
    rcases Text.prefix_dropTrailing_or_eq (getLast?_of_mem_schemes _ listed) start with kept | left
    · exact ⟨scheme, listed, kept⟩
    · have same : plainRegistry registry = scheme := String.toList_injective left
      exact absurd (same ▸ listed) more

/-! ## The check -/

/-- Settings are accepted if the time-out is not at most zero and the registry has a scheme;
then the registry alone is changed. -/
theorem validate_eq_ok_iff {settings accepted : Settings} :
    validate settings = .ok accepted ↔
      settings.timeout.atMostZero = false ∧ HasScheme settings.registry ∧
        accepted = { settings with registry := plainRegistry settings.registry } := by
  rw [← isHttp_iff, validate]
  cases settings.timeout.atMostZero <;> cases isHttp settings.registry <;>
    simp [eq_comm (a := accepted)]

/-- Settings that are read are accepted by the check, with the registry that the variables
give. -/
theorem exists_validate_of_ofEnvironment {environment : List (String × String)}
    {accepted : Settings} (h : ofEnvironment environment = .ok accepted) :
    ∃ settings, settings.registry = registryOf environment Server.defaultRegistry ∧
      validate settings = .ok accepted := by
  simp only [ofEnvironment, bind, Except.bind] at h
  split at h
  · cases h
  · split at h
    · cases h
    · exact ⟨_, rfl, h⟩

/-! ## Settings as they are made -/

/-- Settings come from a registry: it was given with the other choices, or the variables that
were read give it. -/
inductive Made : String → Settings → Prop
  | given {settings accepted : Settings} (accepts : validate settings = .ok accepted) :
      Made settings.registry accepted
  | read {environment : List (String × String)} {accepted : Settings}
      (accepts : ofEnvironment environment = .ok accepted) :
      Made (registryOf environment Server.defaultRegistry) accepted

variable {registry : String} {made : Settings}

/-- However settings are made, they were checked. -/
theorem Made.exists_validate (h : Made registry made) :
    ∃ settings, settings.registry = registry ∧ validate settings = .ok made := by
  cases h with
  | given accepts => exact ⟨_, rfl, accepts⟩
  | read accepts => exact exists_validate_of_ofEnvironment accepts

/-- **Accepted settings.** The registry of settings that were made does not end in a slash. It
has a scheme, and a second check accepts the settings and leaves them as they are, exactly if
a host followed the scheme of the registry that they come from. If none did, only the scheme
is left, and a second check refuses it. -/
theorem Made.lasts_iff (h : Made registry made) :
    made.registry.toList.getLast? ≠ some '/' ∧
      (HasScheme made.registry ↔ ¬ NoHost registry) ∧
      (validate made = .ok made ↔ ¬ NoHost registry) ∧
      (NoHost registry → made.registry ∈ schemes ∧
        validate made = .error (.registryNotHttp made.registry)) := by
  obtain ⟨settings, rfl, accepts⟩ := h.exists_validate
  obtain ⟨inTime, reached, rfl⟩ := validate_eq_ok_iff.1 accepts
  have plain := Text.getLast?_dropTrailing '/' settings.registry
  have scheme := hasScheme_plainRegistry_iff reached
  refine ⟨plain, scheme, ?_, fun bare => ⟨plainRegistry_mem_schemes_iff.2 bare, ?_⟩⟩
  · rw [validate_eq_ok_iff, scheme]
    simp [inTime, plainRegistry, Text.dropTrailing_eq_self plain]
  · have refused : isHttp (plainRegistry settings.registry) = false := by
      rw [Bool.eq_false_iff, ne_eq, isHttp_iff, scheme]
      exact not_not_intro bare
    simp [validate, inTime, refused]

/-- A mirror with slashes at its end is a registry that lasts. -/
theorem Made.lasts_mirror :
    Made "https://npm.example.com//" { registry := "https://npm.example.com" } ∧
      HasScheme "https://npm.example.com" ∧
      validate { registry := "https://npm.example.com" } =
        .ok { registry := "https://npm.example.com" } := by
  have made : Made "https://npm.example.com//" { registry := "https://npm.example.com" } :=
    @Made.given { registry := "https://npm.example.com//" } _ (by decide +kernel)
  have host : ¬ NoHost "https://npm.example.com//" := by
    rw [← plainRegistry_mem_schemes_iff]
    decide +kernel
  exact ⟨made, made.lasts_iff.2.1.2 host, made.lasts_iff.2.2.1.2 host⟩

/-- Settings whose registry is a scheme without a host are accepted, and then they are not. -/
theorem Made.not_lasting :
    ¬ ∀ (registry : String) (made : Settings), Made registry made →
        (HasScheme made.registry ∧ made.registry.toList.getLast? ≠ some '/') ∧
          validate made = .ok made := by
  intro claim
  have made : Made "http://" { registry := "http:" } :=
    @Made.given { registry := "http://" } _ (by decide +kernel)
  exact not_hasScheme_of_mem_schemes "http:" (by decide) (claim _ _ made).1.1

end Settings

end ServerLaunch
