/-
Names as paths.

The escape of a field name is read as the path of that name (`Pattern.parse_escape`).
The set that is built with this one path decides a field by its name alone, so what is
shown of a document is the document with the values of these fields replaced, wherever
they are and whatever they are (`Tree.redact`). Two names have no path: nothing is read
from the empty text, and a star is read as any field.
-/
import StreamMask.Proofs.FieldPlans
import StreamMask.Proofs.MaskedText
import StreamMask.Proofs.PointerPaths

namespace StreamMask

open StreamMask.Path

namespace Pattern

/-- **The escape of a name is the path of the name**, but for the empty name and a star. -/
theorem parse_escape {name : String} (hempty : name ≠ "") (hstar : name ≠ "*") :
    parse (escape name) = .ok (named name) := by
  have hchars : name.toList ≠ [] := fun heq => hempty (String.toList_eq_nil_iff.mp heq)
  have hslash := separator_notMem_escapeChars name.toList
  have htext : (escape name).toList = escapeChars name.toList := String.toList_ofList
  have hhead : (escapeChars name.toList).head? ≠ some '/' := fun heq =>
    hslash (List.mem_of_head? heq)
  have hbody : body (escapeChars name.toList) = escapeChars name.toList := if_neg hhead
  have htrim : trimEnd (escapeChars name.toList) = escapeChars name.toList :=
    trimEnd_append_escapeChars hchars []
  have hpart : escapeChars name.toList ≠ ['*'] := fun heq => by
    have hname : name.toList = ['*'] := escapeChars_inj.mp heq
    exact hstar (String.toList_inj.mp hname)
  refine parse_eq_ok.mpr ⟨?_, ?_, ?_⟩
  · rw [htext, hbody, htrim]
    exact fun heq => hchars (escapeChars_inj.mp heq)
  · rw [htext]
    exact wellEscaped_escapeChars name.toList
  · rw [htext, parts, hbody, htrim, List.splitOn_eq_singleton hslash, List.map_singleton,
      Token.ofPart, if_neg hpart, unescapeChars_escapeChars, String.ofList_toList, named,
      decide_eq_false hhead]

end Pattern

/-! ## Documents without the values of a name -/

namespace Tree

mutual

/-- A tree with a mask in the place of the values of all fields of a name. -/
def redact (name : String) (mask : Mask) : Tree → Tree
  | scalar value => .scalar value
  | array hint items => .array hint (redactItems name mask items)
  | object hint fields => .object hint (redactFields name mask fields)

def redactItems (name : String) (mask : Mask) : List Tree → List Tree
  | [] => []
  | item :: items => item.redact name mask :: redactItems name mask items

def redactFields (name : String) (mask : Mask) : List (String × Tree) → List (String × Tree)
  | [] => []
  | (field, value) :: fields =>
    (field, if field = name then .scalar mask.toScalar else value.redact name mask) ::
      redactFields name mask fields

end

end Tree

/-- Whether a set masks just the fields of a name, wherever they are. -/
structure MaskerSet.MasksName (set : MaskerSet) (name : String) (mask : Mask) : Prop where
  fields : ∀ (place : Position) (field : String),
    set.fieldMask (place.inField field) = .ok (if field = name then some mask else none)
  values : set.valueMaskers = []

namespace Tree

variable {set : MaskerSet} {name : String} {mask : Mask}

mutual

/-- **What is shown of a document is the document without the values of the name.** -/
theorem shows_redact (hset : set.MasksName name mask) (place : Position) (tree : Tree) :
    Shows set place tree (tree.redact name mask) := by
  match tree with
  | scalar value => exact .scalar (MaskerSet.maskScalar_of_nil hset.values place value)
  | array hint items => exact .array (showsItems_redact hset place 0 items)
  | object hint fields => exact .object (showsFields_redact hset place fields)

theorem showsItems_redact (hset : set.MasksName name mask) (place : Position) (index : Nat)
    (items : List Tree) : ShowsItems set place index items (redactItems name mask items) := by
  match items with
  | [] => exact .nil
  | item :: items =>
    exact .cons (shows_redact hset _ item) (showsItems_redact hset place (index + 1) items)

theorem showsFields_redact (hset : set.MasksName name mask) (place : Position)
    (fields : List (String × Tree)) :
    ShowsFields set place fields (redactFields name mask fields) := by
  match fields with
  | [] => exact .nil
  | (field, value) :: fields =>
    have hdecision := hset.fields place field
    have hfields := showsFields_redact hset place fields
    rw [redactFields]
    by_cases hname : field = name
    · rw [if_pos hname] at hdecision ⊢
      exact .masked hdecision hfields
    · rw [if_neg hname] at hdecision ⊢
      exact .passed hdecision (shows_redact hset _ value) hfields

end

end Tree

/-! ## Sets for one name -/

namespace Rules

/-- The set of the one path that the escape of a name is masks just the fields of that name. -/
theorem build_escape {name : String} (hempty : name ≠ "") (hstar : name ≠ "*") (defaultMask : Mask)
    (mask : Option Mask) :
    ∃ set, ((({} : Rules).withDefaultMask defaultMask).maskPaths [escape name] mask).build = .ok set ∧
      set.MasksName name (mask.getD defaultMask) := by
  have hparse : PathMasker.parse (escape name) (mask.getD defaultMask) =
      .ok ⟨.named name, mask.getD defaultMask⟩ := by
    rw [PathMasker.parse, Pattern.parse_escape hempty hstar]
  refine ⟨{ fieldMaskers := [.names ⟨[name], mask.getD defaultMask⟩],
            counts := { nameSets := 1, names := 1 } }, ?_, fun place field => ?_, rfl⟩
  · simp [build, withDefaultMask, maskPaths, masked, readAll, hparse]
    rfl
  · rw [MaskerSet.fieldMask, FieldMasker.firstMask, FieldMasker.mask, NameSet.mask?_inField]
    by_cases hname : field = name
    · simp [hname]
    · simp [hname, FieldMasker.firstMask]

end Rules

/-- **A field name is escaped to a path for itself.** The escape of a name that is neither empty nor
a star is read as a path, that of just this name. Whatever the mask is, a set is built with this path
that masks a field if and only if it has the name: what is recorded of a document, and what is written
of a text, is the document with the mask in the place of the values of these fields. -/
theorem escape_masks_name (name : String) (hempty : name ≠ "") (hstar : name ≠ "*") :
    Pattern.parse (escape name) = .ok (.named name) ∧ (Pattern.named name).singleName? = some name ∧
      ∀ (defaultMask : Mask) (mask : Option Mask), ∃ set,
        ((({} : Rules).withDefaultMask defaultMask).maskPaths [escape name] mask).build = .ok set ∧
        (∀ (place : Position) (field : String), set.fieldMask (place.inField field) =
          .ok (if field = name then some (mask.getD defaultMask) else none)) ∧
        (∀ tree : Tree, Sink.writeAll (Masking.start set Recorder.empty) tree.events =
          (Masking.start set (Recorder.empty.record (tree.redact name (mask.getD defaultMask)).events),
            .ok ())) ∧
        ∀ (text : String) (value : Json.Value), Json.SpellsElement value text.toList → value.Sound →
          maskText set text = .ok (value.tree.redact name (mask.getD defaultMask)).json := by
  refine ⟨Pattern.parse_escape hempty hstar, Pattern.singleName?_named name,
    fun defaultMask mask => ?_⟩
  obtain ⟨set, hbuild, hset⟩ := Rules.build_escape hempty hstar defaultMask mask
  refine ⟨set, hbuild, hset.fields, fun tree => ?_, fun text value hspells hsound => ?_⟩
  · rw [Masking.start_writeAll_shows Recorder.accepts (tree.shows_redact hset .root),
      Recorder.writeAll_eq]
  · exact maskText_of_shows (fun stream => Json.replayText_sound hspells hsound stream)
      (value.tree.shows_redact hset .root)

/-- A name of special characters, and a document in which it is the name of a field, and of one more
inside that. -/
theorem escape_masks_name_special :
    let name := "~/*"
    let fields (mask : Tree) : List (String × Tree) :=
      [("*", .scalar .null), (name, mask), ("a", .array none [.object none [(name, mask)]])]
    let inner : Tree := .object none [(name, .scalar (.integer 1)), ("b", .scalar .null)]
    name ≠ "" ∧ name ≠ "*" ∧ escape name = "~0~1*" ∧
      ∃ set, (({} : Rules).maskPaths ["~0~1*"] none).build = .ok set ∧
        Sink.writeAll (Masking.start set Recorder.empty) (Tree.object none (fields inner)).events =
          (Masking.start set (Recorder.empty.record
            (Tree.object none (fields (.scalar (.string "****")))).events), .ok ()) := by
  intro name fields inner
  have hempty : name ≠ "" := by decide
  have hstar : name ≠ "*" := by decide
  obtain ⟨-, -, hsets⟩ := escape_masks_name name hempty hstar
  obtain ⟨set, hbuild, -, hrecorded, -⟩ := hsets .standard none
  have hescape : escape name = "~0~1*" := by decide +kernel
  rw [hescape] at hbuild
  exact ⟨hempty, hstar, hescape, set, hbuild, hrecorded (.object none (fields inner))⟩

/-- The empty name is escaped to no path, and a star to the path of all fields. -/
theorem escape_star_masks_other_names :
    Pattern.parse (escape "") = .error .empty ∧
      Pattern.parse (escape "*") = .ok ⟨false, [.wildcard]⟩ ∧
      (⟨false, [.wildcard]⟩ : Pattern).singleName? = none ∧
      ∃ set, (({} : Rules).maskPaths [escape "*"] none).build = .ok set ∧
        set.fieldMask (Position.root.inField "id") = .ok (some (.string "****")) := by
  exact ⟨by decide +kernel, by decide +kernel, rfl, _, rfl, rfl⟩

end StreamMask
