import Mathlib
import Rerank.Proofs.Reply.Acceptance

/-!
# Bodies with models

An entry for a model, and the parameters in it, are written as an object or as the array of their
fields, of which the last ones may be left out.  Only the identifier has to be there; the other
fields may also be null.
-/

namespace Rerank

open Json

/-- An optional text. -/
def Json.OptionalText : Option Json → Option String → Prop :=
  Optional fun value s => value = .string s

/-- How parameters are written, with the model that they name. -/
inductive ModelEntry.ParamsWritten : Json → Option String → Prop
  | object {members : List (String × Json)} {root : Option String}
      (hroot : OptionalText (Keyed.get? members "root") root) :
      ParamsWritten (.object members) root
  | array {elements : List Json} {root : Option String} (hlength : elements.length ≤ 1)
      (hroot : OptionalText elements[0]? root) : ParamsWritten (.array elements) root

/-- How an entry is written. -/
inductive ModelEntry.Written : Json → ModelEntry → Prop
  | object {members : List (String × Json)} {entry : ModelEntry}
      (hid : Keyed.get? members "id" = some (.string entry.id))
      (hroot : OptionalText (Keyed.get? members "root") entry.root)
      (hparams : Optional ParamsWritten (Keyed.get? members "params") entry.params) :
      Written (.object members) entry
  | array {elements : List Json} {entry : ModelEntry} (hlength : elements.length ≤ 3)
      (hid : elements[0]? = some (.string entry.id))
      (hroot : OptionalText elements[1]? entry.root)
      (hparams : Optional ParamsWritten elements[2]? entry.params) :
      Written (.array elements) entry

namespace ModelEntry

/-- The model that an entry is derived from. -/
def base : ModelEntry → Option String
  | { params := some (some root), .. } => some root
  | { root, .. } => root

theorem model_eq (entry : ModelEntry) : entry.model = ⟨entry.id, entry.base, none⟩ := by
  obtain ⟨id, root, params⟩ := entry
  cases params with
  | none => rfl
  | some derived => cases derived <;> rfl

theorem paramsOfJson_eq_ok_iff {value : Json} {root : Option String} :
    paramsOfJson value = .ok root ↔ ParamsWritten value root := by
  have htext (value : Json) (s : String) : asString value = .ok s ↔ value = .string s :=
    asString_eq_ok_iff
  constructor
  · intro hread
    cases value with
    | object members => exact .object ((optionalMember_eq_ok_iff htext).1 hread)
    | array elements =>
      match elements with
      | [] =>
        obtain rfl := Except.ok.inj hread
        exact .array (Nat.zero_le 1) .absent
      | first :: rest =>
        simp only [paramsOfJson, except_bind_eq_ok_iff, noMore_eq_ok_iff] at hread
        obtain ⟨_, hfirst, rfl, rfl⟩ := hread
        exact .array (Nat.le_refl 1) ((asOptional_eq_ok_iff htext).1 hfirst)
    | null | bool _ | number _ | string _ => contradiction
  · intro hwritten
    cases hwritten with
    | object hroot => exact (optionalMember_eq_ok_iff htext).2 hroot
    | @array elements _ hlength hroot =>
      match elements with
      | [] =>
        rw [optional_none_iff.1 hroot]
        rfl
      | [first] =>
        simp only [paramsOfJson, except_bind_eq_ok_iff, noMore_eq_ok_iff]
        exact ⟨root, (asOptional_eq_ok_iff htext).2 hroot, trivial, rfl⟩

theorem ofJson_object_eq_ok_iff {members : List (String × Json)} {entry : ModelEntry} :
    ofJson (.object members) = .ok entry ↔
      Keyed.get? members "id" = some (.string entry.id) ∧
        OptionalText (Keyed.get? members "root") entry.root ∧
        Optional ParamsWritten (Keyed.get? members "params") entry.params := by
  simp only [ofJson, except_bind_eq_ok_iff, require_eq_ok_iff,
    optionalMember_eq_ok_iff fun _ _ => asString_eq_ok_iff,
    optionalMember_eq_ok_iff fun _ _ => paramsOfJson_eq_ok_iff]
  constructor
  · rintro ⟨_, hid, params, hparams, root, hroot, id, rfl, hentry⟩
    obtain rfl := Except.ok.inj hentry
    obtain ⟨member, hmember, hread⟩ := member?_eq_ok_some_iff.1 hid
    obtain rfl := asString_eq_ok_iff.1 hread
    exact ⟨hmember, hroot, hparams⟩
  · intro ⟨hid, hroot, hparams⟩
    have hstring := asString_eq_ok_iff.2 (Eq.refl (Json.string entry.id))
    exact ⟨_, member?_eq_ok_some_iff.2 ⟨_, hid, hstring⟩, _, hparams, _, hroot, _, rfl, rfl⟩

theorem ofJson_array_eq_ok_iff {elements : List Json} {entry : ModelEntry} :
    ofJson (.array elements) = .ok entry ↔
      elements.length ≤ 3 ∧ elements[0]? = some (.string entry.id) ∧
        OptionalText elements[1]? entry.root ∧
        Optional ParamsWritten elements[2]? entry.params := by
  obtain ⟨id, root, params⟩ := entry
  have htext {value : Json} {result : Option String} :
      asOptional asString value = .ok result ↔ OptionalText (some value) result :=
    asOptional_eq_ok_iff fun _ _ => asString_eq_ok_iff
  have hparams {value : Json} {result : Option (Option String)} :
      asOptional paramsOfJson value = .ok result ↔ Optional ParamsWritten (some value) result :=
    asOptional_eq_ok_iff fun _ _ => paramsOfJson_eq_ok_iff
  have habsent {result : Option String} : OptionalText none result ↔ result = none :=
    optional_none_iff
  -- Fields that are left out are none, and there is no fourth field.
  match elements with
  | [] => simp [ofJson]
  | [first] =>
    simp [ofJson, except_bind_eq_ok_iff, asString_eq_ok_iff, pure, Except.pure, habsent,
      optional_none_iff, @eq_comm _ none]
  | [first, second] =>
    simp [ofJson, except_bind_eq_ok_iff, asString_eq_ok_iff, pure, Except.pure, htext,
      optional_none_iff, @eq_comm _ none]
  | [first, second, third] =>
    simp [ofJson, except_bind_eq_ok_iff, asString_eq_ok_iff, htext, hparams, noMore_eq_ok_iff]
  | first :: second :: third :: fourth :: rest =>
    simp [ofJson, except_bind_eq_ok_iff, noMore_eq_ok_iff]

theorem ofJson_eq_ok_iff {value : Json} {entry : ModelEntry} :
    ofJson value = .ok entry ↔ Written value entry := by
  constructor
  · intro hread
    cases value with
    | object members =>
      obtain ⟨hid, hroot, hparams⟩ := ofJson_object_eq_ok_iff.1 hread
      exact .object hid hroot hparams
    | array elements =>
      obtain ⟨hlength, hid, hroot, hparams⟩ := ofJson_array_eq_ok_iff.1 hread
      exact .array hlength hid hroot hparams
    | null | bool _ | number _ | string _ => contradiction
  · intro hwritten
    cases hwritten with
    | object hid hroot hparams => exact ofJson_object_eq_ok_iff.2 ⟨hid, hroot, hparams⟩
    | array hlength hid hroot hparams =>
      exact ofJson_array_eq_ok_iff.2 ⟨hlength, hid, hroot, hparams⟩

end ModelEntry

/-- An array of entries stands for their models.  These have no endpoints. -/
def ListsModels (value : Json) (models : List Model) : Prop :=
  ∃ entries : List ModelEntry, Listed ModelEntry.Written value entries ∧
    models = entries.map fun entry => { id := entry.id, baseModel := entry.base, endpoint := none }

theorem ModelEntry.modelsOfJson_eq_ok_iff {value : Json} {models : List Model}
    (hvalue : value.WellFormed) :
    modelsOfJson value = .ok models ↔ ListsModels value models := by
  have hentries (entries : List ModelEntry) :
      (asElements value >>= List.mapM ofJson) = .ok entries ↔
        Listed ModelEntry.Written value entries :=
    listed_iff (fun _ _ _ => ofJson_eq_ok_iff) hvalue
  have hread : modelsOfJson value =
      (asElements value >>= List.mapM ofJson) >>= fun entries => .ok (entries.map model) := by
    rw [bind_assoc]
    rfl
  have hmap (entries : List ModelEntry) : entries.map model =
      entries.map fun entry => { id := entry.id, baseModel := entry.base, endpoint := none } :=
    List.map_congr_left fun entry _ => entry.model_eq
  rw [hread, except_bind_eq_ok_iff]
  constructor
  · intro ⟨entries, hlist, hmodels⟩
    refine ⟨entries, (hentries entries).1 hlist, ?_⟩
    rw [← hmap, Except.ok.inj hmodels]
  · intro ⟨entries, hlisted, hmodels⟩
    refine ⟨entries, (hentries entries).2 hlisted, ?_⟩
    rw [hmap, hmodels]

/-- Models are read off a body exactly if it is an object whose member `data` is an array of written
entries, and then they are those of the entries, in their order. -/
theorem models_of_body (body : List UInt8) :
    ReadsMember "data" .notModels ListsModels body (parseModels body) := by
  apply readsMember_of_form
  · intro member models hmember
    exact ModelEntry.modelsOfJson_eq_ok_iff hmember
  · intro mismatch
    exact ReplyFault.noConfusion

/-- What the parameters name wins unless it is null. -/
example :
    let body := "\x7b\"data\": [[\"a\", \"b\", [\"c\"]], [\"a\", \"b\", [null]]]\x7d"
    parseModels body.toUTF8.toList = .ok [⟨"a", some "c", none⟩, ⟨"a", some "b", none⟩] := by
  decide +kernel

end Rerank
