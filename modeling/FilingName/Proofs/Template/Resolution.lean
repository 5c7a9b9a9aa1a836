import FilingName.Proofs.Logged
import FilingName.Proofs.Text.LetterCase
import FilingName.Template.Engine

/-! What becomes of one token. The key map and the record decide between three cases, and a fault in
either is the only way not to reach one of them. -/
namespace FilingName.Template

/-- The modifier that counts for a token, empty if it has none. -/
def Token.modifier (token : Token) : Text := (token.chain.map lastModifier).getD []

theorem Token.isLastPiece_modifier {token : Token} {chain : Text} (h : chain ∈ token.chain) :
    Text.IsLastPiece ':' chain token.modifier := by
  rw [Token.modifier, Option.mem_def.mp h]
  exact Text.isLastPiece_iff.mpr rfl

/-- Only the last piece of its chain is the modifier of a token. -/
theorem Token.modifier_eq {token : Token} {chain last : Text} (h : chain ∈ token.chain)
    (hlast : Text.IsLastPiece ':' chain last) : token.modifier = last := by
  rw [Token.modifier, Option.mem_def.mp h]
  exact Text.isLastPiece_iff.mp hlast

/-- The value as the modifier leaves it; one that does not exist leaves it alone. -/
def modified (written value : Text) : Text :=
  match Modifier.ofName? written with
  | some modifier => modifier.apply value
  | none => value

theorem ofName?_nil : Modifier.ofName? [] = none := by decide

@[simp] theorem modified_nil (value : Text) : modified [] value = value := by
  simp [modified, ofName?_nil]

theorem modifier_apply_nil (modifier : Modifier) : modifier.apply [] = [] := by
  cases modifier with
  | title => simp [Modifier.apply, Text.titleCase]
  | upper | lower | initial => rfl

private theorem modifier_apply_ne_nil {value : Text} (h : value ≠ []) (modifier : Modifier) :
    modifier.apply value ≠ [] := by
  cases modifier with
  | upper => exact Text.upper_ne_nil h
  | lower => exact Text.lower_ne_nil h
  | title => exact Text.titleCase_ne_nil h
  | initial =>
    obtain ⟨c, rest, rfl⟩ := List.exists_cons_of_ne_nil h
    simpa [Modifier.apply] using Text.upperOf_ne_nil c

theorem modified_ne_nil {value : Text} (h : value ≠ []) (written : Text) :
    modified written value ≠ [] := by
  unfold modified
  split
  · exact modifier_apply_ne_nil h _
  · exact h

/-- Modifying never fails, and reports exactly a modifier that is asked for and does not exist. -/
theorem modify_eq (written value : Text) :
    modify written value =
      ⟨if written = [] ∨ value = [] ∨ (Modifier.ofName? written).isSome then []
        else [.unknownModifier written], .ok (modified written value)⟩ := by
  unfold modify
  by_cases hw : written = []
  · subst hw
    simp [modified_nil]
    rfl
  · by_cases hv : value = []
    · subst hv
      have hsame : modified written [] = [] := by
        unfold modified
        split
        · exact modifier_apply_nil _
        · rfl
      simp [hsame]
      rfl
    · have hne : (written.isEmpty || value.isEmpty) = false := by simp [hw, hv]
      rw [hne, if_neg Bool.false_ne_true]
      unfold modified
      split
      · next he =>
        simp [he]
        rfl
      · next he =>
        simp [he, hw, hv]
        rfl

/-- What the key map and the record make of a token, case by case. -/
inductive Resolves (engine : Engine) (record : Value) (token : Token) : Resolution → Prop
  | unknown : engine.keyMap.lookUp (.text token.name) = .ok .null →
      Resolves engine record token (.unknown token)
  | missing {field value : Value} : engine.keyMap.lookUp (.text token.name) = .ok field →
      field ≠ .null → record.lookUp field = .ok value → value.isMissing = true →
      Resolves engine record token (.missing token field engine.missing)
  | found {field value : Value} {recorded formatted : Text} :
      engine.keyMap.lookUp (.text token.name) = .ok field → field ≠ .null →
      record.lookUp field = .ok value → value.isMissing = false → value.write = .ok recorded →
      format token.name recorded = .ok formatted →
      Resolves engine record token (.found token field recorded (token.chain.map lastModifier)
        (modified token.modifier formatted))

namespace Engine
variable {engine : Engine} {record : Value} {token : Token}

/-- A name without a field is reported, and the token stays. -/
theorem resolve_unknown (h : engine.keyMap.lookUp (.text token.name) = .ok .null) :
    engine.resolve record token = ⟨[.unknownPlaceholder token.name], .ok (.unknown token)⟩ := by
  simp only [resolve, h, Logged.lift_bind_ok]
  rfl

/-- The steps of resolving a token whose name stands for a field. -/
theorem resolve_field {field : Value}
    (h : engine.keyMap.lookUp (.text token.name) = .ok field) (hfield : field ≠ .null) :
    engine.resolve record token = (do
      let value ← record.lookUp field
      if value.isMissing then return .missing token field engine.missing
      let recorded ← value.write
      let formatted ← format token.name recorded
      match token.chain with
      | none => return .found token field recorded none formatted
      | some chain =>
        let modifier := lastModifier chain
        return .found token field recorded (some modifier) (← modify modifier formatted)) := by
  unfold resolve
  rw [h, Logged.lift_bind_ok]
  cases field with
  | null => exact absurd rfl hfield
  | truth | whole | real | text | list | mapping => rfl

theorem resolve_error {field : Value} {fault : ValueFault}
    (h : engine.keyMap.lookUp (.text token.name) = .ok field) (hfield : field ≠ .null)
    (hfault : record.lookUp field = .error fault) :
    engine.resolve record token = ⟨[], .error fault⟩ := by
  rw [resolve_field h hfield, hfault, Logged.lift_bind_error]

theorem resolve_missing {field value : Value}
    (h : engine.keyMap.lookUp (.text token.name) = .ok field) (hfield : field ≠ .null)
    (hvalue : record.lookUp field = .ok value) (hmissing : value.isMissing = true) :
    engine.resolve record token = pure (.missing token field engine.missing) := by
  rw [resolve_field h hfield, hvalue, Logged.lift_bind_ok, if_pos hmissing]

/-- A field that is present is written, and the modifier reports what it has to. -/
theorem resolve_found {field value : Value} {recorded formatted : Text}
    (h : engine.keyMap.lookUp (.text token.name) = .ok field) (hfield : field ≠ .null)
    (hvalue : record.lookUp field = .ok value) (hpresent : value.isMissing = false)
    (hwrite : value.write = .ok recorded) (hformat : format token.name recorded = .ok formatted) :
    engine.resolve record token = ⟨(modify token.modifier formatted).log,
      .ok (.found token field recorded (token.chain.map lastModifier)
        (modified token.modifier formatted))⟩ := by
  have hmodify : engine.resolve record token =
      Resolution.found token field recorded (token.chain.map lastModifier) <$>
        modify token.modifier formatted := by
    rw [resolve_field h hfield, hvalue, Logged.lift_bind_ok, if_neg (by simp [hpresent]), hwrite,
      Logged.lift_bind_ok, hformat, Logged.lift_bind_ok, Token.modifier]
    cases token.chain with
    | none => simp [modify]
    | some chain => simp
  rw [hmodify, Logged.ext_iff, Logged.map_log, Logged.map_outcome, modify_eq]
  exact ⟨rfl, rfl⟩

theorem resolve_unformatted {field value : Value} {recorded : Text} {fault : ValueFault}
    (h : engine.keyMap.lookUp (.text token.name) = .ok field) (hfield : field ≠ .null)
    (hvalue : record.lookUp field = .ok value) (hpresent : value.isMissing = false)
    (hwrite : value.write = .ok recorded) (hformat : format token.name recorded = .error fault) :
    engine.resolve record token = ⟨[], .error fault⟩ := by
  rw [resolve_field h hfield, hvalue, Logged.lift_bind_ok, if_neg (by simp [hpresent]), hwrite,
    Logged.lift_bind_ok, hformat, Logged.lift_bind_error]

/-- Where a token is resolved, the key map and the record decided how. -/
theorem resolves_of_resolve {resolution : Resolution}
    (h : (engine.resolve record token).outcome = .ok resolution) :
    Resolves engine record token resolution := by
  cases hfield : engine.keyMap.lookUp (.text token.name) with
  | error fault => simp [resolve, hfield] at h
  | ok field =>
    by_cases hnull : field = .null
    · subst hnull
      rw [resolve_unknown hfield] at h
      cases h
      exact .unknown hfield
    · have hsteps := h
      rw [resolve_field hfield hnull] at hsteps
      obtain ⟨value, hvalue, hsteps⟩ := Logged.bind_eq_ok.mp hsteps
      cases hmissing : value.isMissing with
      | true =>
        rw [resolve_missing hfield hnull hvalue hmissing] at h
        cases h
        exact .missing hfield hnull hvalue hmissing
      | false =>
        simp only [hmissing, Bool.false_eq_true, if_false] at hsteps
        obtain ⟨recorded, hwrite, hsteps⟩ := Logged.bind_eq_ok.mp hsteps
        obtain ⟨formatted, hformat, -⟩ := Logged.bind_eq_ok.mp hsteps
        rw [resolve_found hfield hnull hvalue hmissing hwrite hformat] at h
        cases h
        exact .found hfield hnull hvalue hmissing hwrite hformat

end Engine
end FilingName.Template
