import ConnectionUri.Proofs.Settings.Merging
import ConnectionUri.Settings.Check

/-!
# Layers of settings

Settings that are checked as a whole are checked field by field, and so each field of merged settings
has one source: the environment, the file, or the default. `Layered` says which. A file can add to what
an environment sets but not repair it: `ofMapping_of_merge`.
-/

set_option autoImplicit false

namespace ConnectionUri.Settings

/-!
## Checked fields
-/

section Fields

variable {α β γ : Type}

theorem Checked.both_eq_ok_iff {combine : α → β → γ} {first : Checked α} {second : Checked β}
    {result : γ} :
    Checked.both combine first second = .ok result ↔
      ∃ left right, first = .ok left ∧ second = .ok right ∧ combine left right = result := by
  cases first <;> cases second <;> simp [Checked.both]

/-- The value of a field is checked, or the field has its default. -/
inductive Settles (check : Value → Checked α) (default : α) : Option Value → α → Prop where
  | given {value : Value} {result : α} :
      check value = .ok result → Settles check default (some value) result
  | default : Settles check default none default

theorem checkField_eq_ok_iff {check : List Step → Value → Checked α} {default : α}
    {path : List Step} {field : Text} {entries : Mapping} {result : α} :
    checkField check default path field entries = .ok result ↔
      Settles (check (path ++ [.field field])) default (Mapping.get? field entries) result := by
  unfold checkField
  cases Mapping.get? field entries with
  | none =>
      constructor
      · intro same
        cases same
        exact .default
      · intro settles
        cases settles
        rfl
  | some value =>
      constructor
      · exact .given
      · intro settles
        cases settles with
        | given checked => exact checked

/-- A field has the checked value of the stronger source that sets it, or else its default. -/
inductive Chosen (check : Value → Checked α) (default : α) : Option Value → Option Value → α → Prop
  where
  | stronger {value : Value} {weaker : Option Value} {result : α} :
      check value = .ok result → Chosen check default (some value) weaker result
  | weaker {value : Value} {result : α} :
      check value = .ok result → Chosen check default none (some value) result
  | default : Chosen check default none none default

def RefusesMappings (check : Value → Checked α) : Prop :=
  ∀ entries result, check (.mapping entries) ≠ .ok result

variable {check : Value → Checked α} {default result : α} {stronger weaker : Option Value}

theorem mergeValue_of_checked (refuses : RefusesMappings check) {value : Value}
    (checked : check (mergeValue weaker value) = .ok result) : mergeValue weaker value = value := by
  -- Only two mappings merge, and the check refuses what they make.
  cases value with
  | mapping entries =>
      match weaker with
      | some (.mapping old) => exact absurd checked (refuses _ result)
      | none | some .null | some (.boolean _) | some (.integer _) | some (.real _)
      | some (.text _) | some (.list _) => rfl
  | _ => rfl

theorem Settles.fromWeaker (settles : Settles check default weaker result) :
    Chosen check default none weaker result := by
  cases settles with
  | given checked => exact .weaker checked
  | default => exact .default

theorem Settles.chosen (settles : Settles check default (mergeOptions stronger weaker) result)
    (refuses : RefusesMappings check) : Chosen check default stronger weaker result := by
  cases stronger with
  | some value =>
      cases settles with
      | given checked => exact .stronger (mergeValue_of_checked refuses checked ▸ checked)
  | none => exact settles.fromWeaker

/-- What a field takes from two sources can be had from the stronger one alone. -/
theorem Chosen.settles (chosen : Chosen check default stronger weaker result) :
    ∃ alone, Settles check default stronger alone := by
  cases chosen with
  | stronger checked => exact ⟨result, .given checked⟩
  | weaker => exact ⟨default, .default⟩
  | default => exact ⟨default, .default⟩

end Fields

theorem refusesMappings_checkText (path : List Step) : RefusesMappings (checkText path) := by
  intro entries result checked
  cases checked

theorem refusesMappings_checkBool (path : List Step) : RefusesMappings (checkBool path) := by
  intro entries result checked
  cases checked

theorem refusesMappings_checkTexts (path : List Step) : RefusesMappings (checkTexts path) := by
  intro entries result checked
  cases checked

/-!
## Checked texts
-/

theorem checkText_eq_ok_iff {path : List Step} {value : Value} {text : Text} :
    checkText path value = .ok text ↔ value = .text text := by
  cases value <;> simp [checkText]

theorem checkItems_eq_ok_iff {path : List Step} {index : Nat} {items : List Value}
    {texts : List Text} :
    checkItems path index items = .ok texts ↔ items = texts.map .text := by
  induction items generalizing index texts with
  | nil => cases texts <;> simp [checkItems]
  | cons item rest ih =>
      simp only [checkItems, Checked.both_eq_ok_iff, checkText_eq_ok_iff, ih]
      constructor
      · intro ⟨text, others, isText, areTexts, same⟩
        rw [← same, List.map_cons, ← isText, ← areTexts]
      · intro same
        cases texts with
        | nil => cases same
        | cons text others =>
            obtain ⟨isText, areTexts⟩ := List.cons.inj same
            exact ⟨text, others, isText, areTexts, rfl⟩

theorem checkTexts_eq_ok_iff {path : List Step} {value : Value} {texts : List Text} :
    checkTexts path value = .ok texts ↔ value = .list (texts.map .text) := by
  cases value <;> simp [checkTexts, checkItems_eq_ok_iff]

/-!
## Checked policies
-/

theorem extraProblems_eq_nil_iff (path : List Step) (entries : Mapping) :
    extraProblems path entries = [] ↔
      ∀ name ∈ entries.map Prod.fst, name ∈ [allowedField, deniedField] := by
  rw [extraProblems, List.map_eq_nil_iff, List.filter_eq_nil_iff]
  simp [Decidable.or_iff_not_imp_left]

theorem checkPolicyFields_eq_ok_iff {path : List Step} {entries : Mapping}
    {policy : ParameterPolicy} :
    checkPolicyFields path entries = .ok policy ↔
      (∀ name ∈ entries.map Prod.fst, name ∈ [allowedField, deniedField]) ∧
        ∃ allowed denied, policy = .ofNames allowed denied ∧
          Settles (checkTexts (path ++ [.field allowedField])) []
            (Mapping.get? allowedField entries) allowed ∧
          Settles (checkTexts (path ++ [.field deniedField])) []
            (Mapping.get? deniedField entries) denied := by
  rw [← extraProblems_eq_nil_iff path entries, checkPolicyFields]
  split
  · next known =>
      rw [Checked.both_eq_ok_iff]
      simp only [checkField_eq_ok_iff]
      constructor
      · intro ⟨allowed, denied, ofAllowed, ofDenied, same⟩
        exact ⟨known, allowed, denied, same.symm, ofAllowed, ofDenied⟩
      · intro ⟨_, allowed, denied, same, ofAllowed, ofDenied⟩
        exact ⟨allowed, denied, ofAllowed, ofDenied, same.symm⟩
  · next problems unknown =>
      rw [Checked.both_eq_ok_iff]
      constructor
      · intro ⟨_, _, _, refused, _⟩
        cases refused
      · intro ⟨known, _⟩
        exact absurd known unknown

def checkNames (field : Text) : Value → Checked (List Text) :=
  checkTexts [.field policyField, .field field]

/-- A policy has each of its lists from the stronger of two mappings that sets it. -/
inductive ChosenPolicy (stronger weaker : Mapping) : ParameterPolicy → Prop where
  | ofNames {allowed denied : List Text} :
      Chosen (checkNames allowedField) [] (Mapping.get? allowedField stronger)
        (Mapping.get? allowedField weaker) allowed →
      Chosen (checkNames deniedField) [] (Mapping.get? deniedField stronger)
        (Mapping.get? deniedField weaker) denied →
      ChosenPolicy stronger weaker (.ofNames allowed denied)

theorem checkPolicyFields_mergeEntries {weaker entries : Mapping} {policy : ParameterPolicy}
    (distinct : (entries.map Prod.fst).Nodup)
    (checked : checkPolicyFields [.field policyField] (mergeEntries weaker entries) = .ok policy) :
    ChosenPolicy entries weaker policy ∧
      ∃ alone, checkPolicyFields [.field policyField] entries = .ok alone := by
  obtain ⟨known, allowed, denied, same, ofAllowed, ofDenied⟩ :=
    checkPolicyFields_eq_ok_iff.mp checked
  rw [get?_mergeEntries weaker distinct] at ofAllowed ofDenied
  have chosenAllowed := ofAllowed.chosen (refusesMappings_checkTexts _)
  have chosenDenied := ofDenied.chosen (refusesMappings_checkTexts _)
  obtain ⟨aloneAllowed, settlesAllowed⟩ := chosenAllowed.settles
  obtain ⟨aloneDenied, settlesDenied⟩ := chosenDenied.settles
  rw [same]
  refine ⟨.ofNames chosenAllowed chosenDenied, .ofNames aloneAllowed aloneDenied,
    checkPolicyFields_eq_ok_iff.mpr ⟨?_, aloneAllowed, aloneDenied, rfl, settlesAllowed,
      settlesDenied⟩⟩
  intro name member
  exact known name (mem_names_mergeEntries weaker distinct member)

theorem checkPolicy_eq_ok_iff {path : List Step} {value : Value} {policy : ParameterPolicy} :
    checkPolicy path value = .ok policy ↔
      ∃ entries, value = .mapping entries ∧ checkPolicyFields path entries = .ok policy := by
  cases value <;> simp [checkPolicy]

/-- A policy that two sources settle together has its lists from both, and the stronger source settles
one alone. -/
theorem Settles.chosenPolicy {stronger weaker : Option Value} {policy : ParameterPolicy}
    (settles : Settles (checkPolicy [.field policyField]) Settings.default.policy
      (mergeOptions stronger weaker) policy)
    (distinct : ((fieldsOf stronger).map Prod.fst).Nodup) :
    ChosenPolicy (fieldsOf stronger) (fieldsOf weaker) policy ∧
      ∃ alone, Settles (checkPolicy [.field policyField]) Settings.default.policy stronger alone := by
  match stronger, weaker with
  | none, none =>
      cases settles
      have unrestricted : ChosenPolicy [] [] (.ofNames [] []) := .ofNames .default .default
      exact ⟨unrestricted, _, .default⟩
  | none, some value =>
      cases settles with
      | given checked =>
          obtain ⟨entries, rfl, fields⟩ := checkPolicy_eq_ok_iff.mp checked
          obtain ⟨-, allowed, denied, rfl, ofAllowed, ofDenied⟩ :=
            checkPolicyFields_eq_ok_iff.mp fields
          exact ⟨.ofNames ofAllowed.fromWeaker ofDenied.fromWeaker, _, .default⟩
  | some value, weaker =>
      cases settles with
      | given checked =>
          obtain ⟨merged, isMapping, fields⟩ := checkPolicy_eq_ok_iff.mp checked
          cases value with
          | mapping entries =>
              have own : (entries.map Prod.fst).Nodup := distinct
              rw [mergeValue_mapping weaker own] at isMapping
              cases isMapping
              obtain ⟨chosen, alone, checkedAlone⟩ := checkPolicyFields_mergeEntries own fields
              exact ⟨chosen, alone, .given checkedAlone⟩
          | _ => cases isMapping

/-!
## Checked settings
-/

theorem ofMapping_eq_ok_iff {entries : Mapping} {settings : Settings} :
    ofMapping entries = .ok settings ↔
      Settles (checkText [.field levelField]) default.logLevel
        (Mapping.get? levelField entries) settings.logLevel ∧
      Settles (checkBool [.field maskField]) default.masksSensitiveData
        (Mapping.get? maskField entries) settings.masksSensitiveData ∧
      Settles (checkPolicy [.field policyField]) default.policy
        (Mapping.get? policyField entries) settings.policy := by
  rw [ofMapping, Checked.both_eq_ok_iff]
  simp only [Checked.both_eq_ok_iff, checkField_eq_ok_iff, List.nil_append]
  constructor
  · intro ⟨level, rest, ofLevel, ⟨masks, policy, ofMasks, ofPolicy, isRest⟩, isSettings⟩
    subst isRest isSettings
    exact ⟨ofLevel, ofMasks, ofPolicy⟩
  · intro ⟨ofLevel, ofMasks, ofPolicy⟩
    exact ⟨_, _, ofLevel, ⟨_, _, ofMasks, ofPolicy, rfl⟩, rfl⟩

/-- Each of the settings comes from the environment if it sets it, else from the file, else it is the
default. -/
structure Layered (environment file : Mapping) (settings : Settings) : Prop where
  logLevel : Chosen (checkText [.field levelField]) default.logLevel
    (Mapping.get? levelField environment) (Mapping.get? levelField file) settings.logLevel
  masks : Chosen (checkBool [.field maskField]) default.masksSensitiveData
    (Mapping.get? maskField environment) (Mapping.get? maskField file) settings.masksSensitiveData
  policy : ChosenPolicy (fieldsOf (Mapping.get? policyField environment))
    (fieldsOf (Mapping.get? policyField file)) settings.policy

theorem get?_merge {environment : Mapping} (distinct : Distinct environment) (file : Mapping)
    (field : Text) :
    Mapping.get? field (merge environment file) =
      mergeOptions (Mapping.get? field environment) (Mapping.get? field file) :=
  get?_mergeEntries file distinct.names field

section Merged

variable {environment file : Mapping} {settings : Settings} (distinct : Distinct environment)
  (checked : ofMapping (merge environment file) = .ok settings)

include distinct checked

theorem layered_of_merge : Layered environment file settings := by
  obtain ⟨ofLevel, ofMasks, ofPolicy⟩ := ofMapping_eq_ok_iff.mp checked
  rw [get?_merge distinct] at ofLevel ofMasks ofPolicy
  exact ⟨ofLevel.chosen (refusesMappings_checkText _), ofMasks.chosen (refusesMappings_checkBool _),
    (ofPolicy.chosenPolicy distinct.policy).1⟩

/-- A file that goes well with an environment does not repair it. -/
theorem ofMapping_of_merge : ∃ alone, ofMapping environment = .ok alone := by
  obtain ⟨ofLevel, ofMasks, ofPolicy⟩ := ofMapping_eq_ok_iff.mp checked
  rw [get?_merge distinct] at ofLevel ofMasks ofPolicy
  obtain ⟨level, levelAlone⟩ := (ofLevel.chosen (refusesMappings_checkText _)).settles
  obtain ⟨masks, masksAlone⟩ := (ofMasks.chosen (refusesMappings_checkBool _)).settles
  obtain ⟨policy, policyAlone⟩ := (ofPolicy.chosenPolicy distinct.policy).2
  exact ⟨⟨level, masks, policy⟩, ofMapping_eq_ok_iff.mpr ⟨levelAlone, masksAlone, policyAlone⟩⟩

end Merged

end ConnectionUri.Settings
