/-
What is printed is read again.

A tree whose numbers are worth what their texts say (`Legible`) is printed as a
document of a value that has the same events, but for two things that JSON has no
way to write: how many members a container announces, and floats that are not
finite (`Event.plain`). No line end and no other control character is printed.
-/
import StreamMask.Proofs.LayoutFacts
import StreamMask.Proofs.ScriptFacts
import StreamMask.Proofs.WriterFacts

namespace StreamMask

open Json

/-- An event as JSON can write it. -/
def Scalar.plain : Scalar → Scalar
  | .float x => if x.isFinite then .float x else .null
  | value => value

def Event.plain : Event → Event
  | .beginObject _ => .beginObject none
  | .beginArray _ => .beginArray none
  | .scalar value => .scalar value.plain
  | event => event

/-! ## Scalars -/

namespace Scalar

/-- Whether what is written for a scalar is a number that is taken for that scalar. -/
def IsNumeral (value : Scalar) : Prop :=
  ∃ n : Numeral, n.Valid ∧ n.text = value.json.toList ∧ ofNumeral n = value

/-- Whether a scalar is not opaque, and its text says what it is worth. -/
def Legible : Scalar → Prop
  | string _ | integer _ | float _ | bool _ | null => True
  | bigInteger digits => IsNumeral (.bigInteger digits)
  | bigDecimal digits => IsNumeral (.bigDecimal digits)
  | raw _ | binary _ => False

theorem legible_ofNumeral {n : Numeral} (h : n.Valid) : (ofNumeral n).Legible := by
  have hscalar := ofNumeral_spec n
  have hkept (value : Scalar) (hjson : value.json = String.ofList n.text) (hvalue : ofNumeral n = value) :
      value.IsNumeral :=
    ⟨n, h, by rw [hjson, String.toList_ofList], hvalue⟩
  generalize hvalue : ofNumeral n = value at hscalar ⊢
  cases hscalar with
  | integer => trivial
  | bigInteger => exact hkept _ rfl hvalue
  | float => trivial
  | bigDecimal => exact hkept _ rfl hvalue

theorem legible_mask (mask : Mask) : mask.toScalar.Legible := by
  cases mask <;> trivial

end Scalar

theorem visible_numeral {n : Numeral} (h : n.Valid) : Visible n.text := by
  have hsigns : ∀ c ∈ ['-', '+', '.', 'e', 'E'], 0x20 ≤ c.toNat := by simp
  intro c hc
  rcases h.chars c hc with hdigit | hsign
  · simp only [Char.isDigit, Bool.and_eq_true, decide_eq_true_eq] at hdigit
    exact Nat.le_trans (by decide) hdigit.1
  · exact hsigns c hsign

/-! ## Printed values -/

/-- Whether a text is, without blanks around it or control characters in it, a value whose events
are these. -/
def Prints (events : List Event) (text : List Char) : Prop :=
  ∃ value : Value, Spells value text ∧ value.Sound ∧ value.tree.events = events ∧ Visible text

theorem prints_numeral {value : Scalar} (h : value.IsNumeral) :
    Prints [.scalar value] value.json.toList := by
  obtain ⟨n, hvalid, htext, hscalar⟩ := h
  rw [← htext]
  refine ⟨.number n, .number hvalid, trivial, ?_, visible_numeral hvalid⟩
  rw [Value.tree, hscalar, Tree.events]

theorem quote_spells (text : String) :
    ∃ parts : List Part, (∀ part ∈ parts, part.Valid) ∧ said parts = some text ∧
      (Json.quote text).toList = '"' :: Part.quoted parts [] ∧ Visible (Json.quote text).toList := by
  obtain ⟨parts, hvalid, hmeaning, hquoted, hvisible⟩ := quoteChars_parts text.toList
  have htext : (Json.quote text).toList = quoteChars text.toList := String.toList_ofList
  refine ⟨parts, hvalid, ?_, ?_, ?_⟩
  · rw [said, hmeaning, Option.map_some, String.ofList_toList]
  · rw [htext, ← hquoted, List.append_nil]
  · rw [htext]
    exact hvisible

theorem render_not_finite {x : Binary64} (hx : ¬x.isFinite = true) : Layout.json.render x = "null" := by
  unfold Layout.render
  rcases Binary64.isNaN_or_isInfinite (Bool.eq_false_iff.mpr hx) with hnan | hinfinite
  · rw [if_pos hnan]
    rfl
  · rw [if_pos hinfinite]
    split
    · rfl
    · split <;> rfl

/-- **Each legible scalar is printed as a value that is worth it**, or null where there is none. -/
theorem prints_scalar {value : Scalar} (h : value.Legible) :
    Prints [.scalar value.plain] value.json.toList := by
  cases value with
  | string text =>
    obtain ⟨parts, hvalid, hsaid, htext, hvisible⟩ := quote_spells text
    refine ⟨.string (said parts), ?_, ?_, ?_, hvisible⟩
    · rw [Scalar.json, htext]
      exact .string hvalid
    · rw [hsaid]
      rfl
    · rw [hsaid]
      rfl
  | integer value =>
    exact prints_numeral ⟨.ofInt value.toInt, Numeral.ofInt_valid _, Numeral.ofInt_text _,
      ofNumeral_ofInt value⟩
  | float x =>
    by_cases hx : x.isFinite = true
    · rw [Scalar.plain, if_pos hx]
      exact prints_numeral (Scalar.ofNumeral_render hx)
    · rw [Scalar.plain, if_neg hx, Scalar.json, render_not_finite hx]
      exact ⟨.null, .null, trivial, rfl, by decide⟩
  | bigInteger digits => exact prints_numeral h
  | bigDecimal digits => exact prints_numeral h
  | bool value =>
    refine ⟨.bool value, .bool value, trivial, rfl, ?_⟩
    cases value <;> decide
  | null => exact ⟨.null, .null, trivial, rfl, by decide⟩
  | raw json => exact h.elim
  | binary bytes => exact h.elim

/-! ## Trees -/

namespace Tree

mutual

/-- Whether all scalars of a tree are legible. -/
def Legible : Tree → Prop
  | scalar value => value.Legible
  | array _ items => ItemsLegible items
  | object _ fields => FieldsLegible fields

def ItemsLegible : List Tree → Prop
  | [] => True
  | item :: items => item.Legible ∧ ItemsLegible items

def FieldsLegible : List (String × Tree) → Prop
  | [] => True
  | (_, value) :: fields => value.Legible ∧ FieldsLegible fields

end

/-- Only the comma in front tells members that follow others. -/
theorem itemsJson_started (item : Tree) (items : List Tree) :
    (itemsJson true (item :: items)).toList = ',' :: (itemsJson false (item :: items)).toList := by
  simp only [itemsJson, String.toList_append, comma_false]
  rfl

theorem fieldsJson_started (field : String × Tree) (fields : List (String × Tree)) :
    (fieldsJson true (field :: fields)).toList = ',' :: (fieldsJson false (field :: fields)).toList := by
  obtain ⟨name, value⟩ := field
  simp only [fieldsJson, String.toList_append, comma_false]
  rfl

theorem itemsJson_first (item : Tree) (items : List Tree) :
    (itemsJson false (item :: items)).toList = item.json.toList ++ (itemsJson true items).toList := by
  rw [itemsJson, String.toList_append, String.toList_append, comma_false, List.nil_append]

theorem fieldsJson_first (name : String) (value : Tree) (fields : List (String × Tree)) :
    (fieldsJson false ((name, value) :: fields)).toList =
      (Json.quote name).toList ++ ':' :: (value.json.toList ++ (fieldsJson true fields).toList) := by
  have hcolon : ":".toList = [':'] := rfl
  simp only [fieldsJson, String.toList_append, List.append_assoc]
  rw [comma_false, hcolon, List.nil_append, List.singleton_append]

theorem array_json (hint : Option Nat) (items : List Tree) :
    (array hint items).json.toList = '[' :: ((itemsJson false items).toList ++ [']']) := by
  simp only [json, String.toList_append]
  rfl

theorem object_json (hint : Option Nat) (fields : List (String × Tree)) :
    (object hint fields).json.toList = '\x7b' :: ((fieldsJson false fields).toList ++ ['\x7d']) := by
  simp only [json, String.toList_append]
  rfl

mutual

/-- **Each legible tree is printed as a document with its events.** -/
theorem prints (tree : Tree) (h : tree.Legible) :
    Prints (tree.events.map Event.plain) tree.json.toList := by
  match tree with
  | .scalar value => exact prints_scalar h
  | .array hint items =>
    rw [array_json]
    by_cases hnil : items = []
    · subst hnil
      exact ⟨.array [], .emptyArray (List.forall_mem_nil _), trivial, rfl, by decide⟩
    · obtain ⟨values, hspells, hsound, hevents, hvisible⟩ := prints_items items hnil h
      refine ⟨.array values, .array hspells, hsound, ?_, hvisible.bracket (by decide)⟩
      rw [Value.tree, Tree.events, Tree.events, hevents, List.map_append]
      rfl
  | .object hint fields =>
    rw [object_json]
    by_cases hnil : fields = []
    · subst hnil
      exact ⟨.object [], .emptyObject (List.forall_mem_nil _), trivial, rfl, by decide⟩
    · obtain ⟨values, hspells, hsound, hevents, hvisible⟩ := prints_fields fields hnil h
      refine ⟨.object values, .object hspells, hsound, ?_, hvisible.bracket (by decide)⟩
      rw [Value.tree, Tree.events, Tree.events, hevents, List.map_append]
      rfl

theorem prints_items (items : List Tree) (hne : items ≠ []) (h : ItemsLegible items) :
    ∃ values : List Value, SpellsItems values (itemsJson false items).toList ∧
      Value.ItemsSound values ∧
      itemEvents (Value.itemTrees values) = (itemEvents items).map Event.plain ∧
      Visible (itemsJson false items).toList := by
  match items with
  | [] => exact absurd rfl hne
  | [item] =>
    obtain ⟨value, hspells, hsound, hevents, hvisible⟩ := prints item h.1
    have hjson : (itemsJson false [item]).toList = item.json.toList := by
      rw [itemsJson_first]
      exact List.append_nil _
    rw [hjson]
    refine ⟨[value], .last hspells.element, ⟨hsound, trivial⟩, ?_, hvisible⟩
    rw [Value.itemTrees, itemEvents, itemEvents, List.map_append, hevents]
    rfl
  | item :: next :: items =>
    obtain ⟨value, hspells, hsound, hevents, hvisible⟩ := prints item h.1
    obtain ⟨values, hothers, hsounds, hrest, hvisibles⟩ :=
      prints_items (next :: items) (List.cons_ne_nil _ _) h.2
    rw [itemsJson_first, itemsJson_started]
    refine ⟨value :: values, .more hspells.element hothers, ⟨hsound, hsounds⟩, ?_, ?_⟩
    · rw [Value.itemTrees, itemEvents, itemEvents, List.map_append, hevents, hrest]
    · exact hvisible.append (List.forall_mem_cons.mpr ⟨by decide, hvisibles⟩)

theorem prints_field (name : String) (value : Tree) (h : value.Legible) :
    ∃ value' : Value,
      SpellsField (some name, value') ((Json.quote name).toList ++ ':' :: value.json.toList) ∧
      value'.Sound ∧ value'.tree.events = value.events.map Event.plain ∧
      Visible ((Json.quote name).toList ++ ':' :: value.json.toList) := by
  obtain ⟨parts, hvalid, hsaid, hquote, hname⟩ := quote_spells name
  obtain ⟨value', hspells, hsound, hevents, hvisible⟩ := prints value h
  have hblank : Blank [] := List.forall_mem_nil _
  refine ⟨value', ?_, hsound, hevents,
    hname.append (List.forall_mem_cons.mpr ⟨by decide, hvisible⟩)⟩
  rw [hquote, List.cons_append, ← quoted_append, ← hsaid]
  exact .named hblank hvalid hblank hspells.element

theorem prints_fields (fields : List (String × Tree)) (hne : fields ≠ [])
    (h : FieldsLegible fields) :
    ∃ values : List (Option String × Value), SpellsFields values (fieldsJson false fields).toList ∧
      Value.FieldsSound values ∧
      fieldEvents (Value.fieldTrees values) = (fieldEvents fields).map Event.plain ∧
      Visible (fieldsJson false fields).toList := by
  match fields with
  | [] => exact absurd rfl hne
  | [(name, value)] =>
    obtain ⟨value', hspells, hsound, hevents, hvisible⟩ := prints_field name value h.1
    have hjson : (fieldsJson false [(name, value)]).toList =
        (Json.quote name).toList ++ ':' :: value.json.toList := by
      rw [fieldsJson_first]
      exact congrArg (fun text => (Json.quote name).toList ++ ':' :: text) (List.append_nil _)
    rw [hjson]
    refine ⟨[(some name, value')], .last hspells, ⟨rfl, hsound, trivial⟩, ?_, hvisible⟩
    rw [Value.fieldTrees, fieldEvents, fieldEvents, List.map_append, List.map_cons, hevents]
    rfl
  | (name, value) :: next :: fields =>
    obtain ⟨value', hspells, hsound, hevents, hvisible⟩ := prints_field name value h.1
    obtain ⟨values, hothers, hsounds, hrest, hvisibles⟩ :=
      prints_fields (next :: fields) (List.cons_ne_nil _ _) h.2
    have hjson : (fieldsJson false ((name, value) :: next :: fields)).toList =
        ((Json.quote name).toList ++ ':' :: value.json.toList) ++
          ',' :: (fieldsJson false (next :: fields)).toList := by
      rw [fieldsJson_first, fieldsJson_started, List.append_assoc, List.cons_append]
    rw [hjson]
    refine ⟨(some name, value') :: values, .more hspells hothers, ⟨rfl, hsound, hsounds⟩, ?_, ?_⟩
    · rw [Value.fieldTrees, fieldEvents, fieldEvents, List.map_append, List.map_cons, hevents, hrest]
      rfl
    · exact hvisible.append (List.forall_mem_cons.mpr ⟨by decide, hvisibles⟩)

end

end Tree

/-- **The JSON of a legible tree is replayed as the events of the tree**, as JSON can write them. -/
theorem Json.replayText_printed {σ : Type} [Sink σ] {tree : Tree} (h : tree.Legible) (sink : σ) :
    replayText tree.json sink = Sink.writeAll sink (tree.events.map Event.plain) := by
  obtain ⟨value, hspells, hsound, hevents, -⟩ := tree.prints h
  rw [replayText_sound hspells.element hsound, hevents]

end StreamMask
