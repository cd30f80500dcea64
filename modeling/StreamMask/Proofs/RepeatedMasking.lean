/-
Masking what has been masked already.

Where only fields are masked, a second pass changes nothing. What was put in the place of
a masked field stands at the same place, and so is masked again, with the same mask; and
every other scalar is printed as the text that it is read from.
-/
import StreamMask.Proofs.MaskedText

namespace StreamMask

open Json

namespace Tree

mutual

/-- A tree as it is read from its JSON: no container announces its members, and floats that are not
finite are null. -/
def plain : Tree → Tree
  | scalar value => .scalar value.plain
  | array _ items => .array none (plainItems items)
  | object _ fields => .object none (plainFields fields)

def plainItems : List Tree → List Tree
  | [] => []
  | item :: items => item.plain :: plainItems items

def plainFields : List (String × Tree) → List (String × Tree)
  | [] => []
  | (name, value) :: fields => (name, value.plain) :: plainFields fields

end

mutual

theorem events_plain (tree : Tree) : tree.plain.events = tree.events.map Event.plain := by
  match tree with
  | scalar value => rfl
  | array hint items =>
    simp only [plain, events, itemEvents_plain items, List.map_cons, List.map_append, List.map_nil,
      Event.plain]
  | object hint fields =>
    simp only [plain, events, fieldEvents_plain fields, List.map_cons, List.map_append, List.map_nil,
      Event.plain]

theorem itemEvents_plain (items : List Tree) :
    itemEvents (plainItems items) = (itemEvents items).map Event.plain := by
  match items with
  | [] => rfl
  | item :: items =>
    simp only [plainItems, itemEvents, events_plain item, itemEvents_plain items, List.map_append]

theorem fieldEvents_plain (fields : List (String × Tree)) :
    fieldEvents (plainFields fields) = (fieldEvents fields).map Event.plain := by
  match fields with
  | [] => rfl
  | (name, value) :: fields =>
    simp only [plainFields, fieldEvents, events_plain value, fieldEvents_plain fields, List.map_cons,
      List.map_append, Event.plain]

end

end Tree

theorem Scalar.json_plain (value : Scalar) : value.plain.json = value.json := by
  cases value with
  | float x =>
    by_cases hx : x.isFinite = true
    · rw [plain, if_pos hx]
    · rw [plain, if_neg hx, json, json, render_not_finite hx]
  | _ => rfl

namespace Tree

variable {set : MaskerSet}

mutual

/-- **What is shown is shown again**, as far as it is printed. -/
theorem Shows.again (hset : set.valueMaskers = []) {place : Position} {tree shown : Tree}
    (h : Shows set place tree shown) :
    ∃ again, Shows set place shown.plain again ∧ again.json = shown.json := by
  match h with
  | .scalar answer =>
    refine ⟨_, .scalar (MaskerSet.maskScalar_of_nil hset _ _), ?_⟩
    simp only [json, Scalar.json_plain]
  | .array members =>
    obtain ⟨again, hagain, hjson⟩ := members.again hset
    refine ⟨_, .array hagain, ?_⟩
    simp only [json, hjson]
  | .object members =>
    obtain ⟨again, hagain, hjson⟩ := members.again hset
    refine ⟨_, .object hagain, ?_⟩
    simp only [json, hjson]

theorem ShowsItems.again (hset : set.valueMaskers = []) {place : Position} {index : Nat}
    {items shown : List Tree} (h : ShowsItems set place index items shown) :
    ∃ again, ShowsItems set place index (plainItems shown) again ∧
      ∀ isStarted, itemsJson isStarted again = itemsJson isStarted shown := by
  match h with
  | .nil => exact ⟨[], .nil, fun _ => rfl⟩
  | .cons head tail =>
    obtain ⟨first, hfirst, hjson⟩ := head.again hset
    obtain ⟨others, hothers, hjsons⟩ := tail.again hset
    refine ⟨_, .cons hfirst hothers, fun isStarted => ?_⟩
    simp only [itemsJson, hjson, hjsons]

theorem ShowsFields.again (hset : set.valueMaskers = []) {place : Position}
    {fields shown : List (String × Tree)} (h : ShowsFields set place fields shown) :
    ∃ again, ShowsFields set place (plainFields shown) again ∧
      ∀ isStarted, fieldsJson isStarted again = fieldsJson isStarted shown := by
  match h with
  | .nil => exact ⟨[], .nil, fun _ => rfl⟩
  | .masked answer tail =>
    -- The mask stands where the value was, and the decision was made before the value.
    obtain ⟨others, hothers, hjsons⟩ := tail.again hset
    refine ⟨_, .masked answer hothers, fun isStarted => ?_⟩
    simp only [fieldsJson, hjsons]
  | .passed answer head tail =>
    obtain ⟨first, hfirst, hjson⟩ := head.again hset
    obtain ⟨others, hothers, hjsons⟩ := tail.again hset
    refine ⟨_, .passed answer hfirst hothers, fun isStarted => ?_⟩
    simp only [fieldsJson, hjson, hjsons]

end

end Tree

/-- **Masking fields is idempotent.** Where no value maskers are, a text that has been masked is
masked as itself. So compact JSON is a normal form: it is what comes out where nothing is masked. -/
theorem maskText_maskText (set : MaskerSet) (hset : set.valueMaskers = []) (text out : String)
    (h : maskText set text = .ok out) : maskText set out = .ok out := by
  obtain ⟨value, shown, hspells, -, hshown, rfl⟩ := maskText_eq_ok.mp h
  have hlegible : shown.Legible := hshown.legible hspells.legible
  have hread : ∀ stream : Masking (Writer String),
      replayText shown.json stream = Sink.writeAll stream shown.plain.events := by
    intro stream
    rw [replayText_printed hlegible, Tree.events_plain]
  obtain ⟨again, hagain, hjson⟩ := hshown.again hset
  rw [maskText_of_shows hread hagain, hjson]

/-- A mask that is no number is printed as null, and is put in the place of null again. -/
theorem maskText_maskText_pin :
    let set : MaskerSet := {
      fieldMaskers := [.names ⟨["pin"], .float .nan⟩, .custom fun place =>
        .ok (if place.pointer = "/ids/0/key" then some (.string "\"") else none)] }
    let text := "\x7b \"pin\" : [1, 2], \"ids\": [\x7b\"key\": 1\x7d, 1.10, -0, \"\\u0041\\/\"] \x7d"
    set.valueMaskers = [] ∧
      maskText set text = .ok "\x7b\"pin\":null,\"ids\":[\x7b\"key\":\"\\\"\"\x7d,1.10,-0,\"A/\"]\x7d" ∧
      maskText set "\x7b\"pin\":null,\"ids\":[\x7b\"key\":\"\\\"\"\x7d,1.10,-0,\"A/\"]\x7d" =
        .ok "\x7b\"pin\":null,\"ids\":[\x7b\"key\":\"\\\"\"\x7d,1.10,-0,\"A/\"]\x7d" := by
  intro set text
  have hout : maskText set text =
      .ok "\x7b\"pin\":null,\"ids\":[\x7b\"key\":\"\\\"\"\x7d,1.10,-0,\"A/\"]\x7d" :=
    ok_of_toOption (by decide +kernel)
  exact ⟨rfl, hout, maskText_maskText set rfl text _ hout⟩

end StreamMask
