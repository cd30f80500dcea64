/-
Configurations that are saved and loaded again.

Each part of a configuration is read as what it was printed for: its texts, its masks, the
rules with a mask and those without one. So the configuration that a saved file is read as
is the one that was saved (`Config.load_save`). Of a float this is known only if its text is
worth it to a reader that rounds in steps (`Mask.ReadsBack`).
-/
import StreamMask.Config.File
import StreamMask.Proofs.FolderFacts
import StreamMask.Proofs.ShapeFacts

namespace StreamMask

open Json

/-! ## Numbers -/

namespace Text

theorem le_digitsValue (start : Nat) (digits : List Char) : start ≤ digitsValue start digits := by
  induction digits generalizing start with
  | nil => exact Nat.le_refl start
  | cons c digits ih =>
    have hnext := ih (start * 10 + digitValue c)
    show start ≤ digitsValue (start * 10 + digitValue c) digits
    omega

end Text

namespace Json

/-- Digits are taken in to the end while sixty-four bits hold what they say. -/
theorem accumulate_eq {start : Nat} {digits : List Char}
    (h : Text.digitsValue start digits < twoTo 64) :
    accumulate start digits = (Text.digitsValue start digits, []) := by
  induction digits generalizing start with
  | nil => rfl
  | cons c digits ih =>
    have hnext : Text.digitsValue (start * 10 + Text.digitValue c) digits < twoTo 64 := h
    have hle := Text.le_digitsValue (start * 10 + Text.digitValue c) digits
    rw [accumulate, if_pos (Nat.lt_of_le_of_lt hle hnext), ih hnext]
    rfl

/-- A whole number without a sign or with one is worth what its digits say. -/
theorem number_digits (negative : Bool) {n : Nat} (h : n < twoTo 64) :
    (Numeral.mk negative (Nat.toDigits 10 n) [] none).number = .ok (.ofWhole negative n) := by
  have hvalue := Text.digitsValue_toDigits n
  have htaken : accumulate 0 (Nat.toDigits 10 n) = (Text.digitsValue 0 (Nat.toDigits 10 n), []) :=
    accumulate_eq (hvalue.symm ▸ h)
  rw [Numeral.number, htaken, hvalue]
  rfl

/-- The number that an integer is printed as. -/
def Number.ofInteger (value : Int64) : Number :=
  if value.toInt < 0 then .negative value else .natural value.toUInt64

theorem number_ofInt (value : Int64) :
    (Numeral.ofInt value.toInt).number = .ok (.ofInteger value) := by
  have hlimit : twoTo 63 = 2 ^ 63 ∧ twoTo 64 = 2 ^ 64 := ⟨rfl, rfl⟩
  have hvalue := Int64.ofInt_toInt value
  rw [Number.ofInteger]
  cases hint : value.toInt with
  | ofNat n =>
    have hlt := value.toInt_lt
    rw [hint, Int.ofNat_eq_natCast] at hlt
    have hn : n < twoTo 64 := by omega
    have hsign : ¬Int.ofNat n < 0 := Int.not_lt.mpr (Int.natCast_nonneg n)
    have hnatural : value.toUInt64 = UInt64.ofNat n := by
      rw [← hvalue, hint]
      exact Int64.toUInt64_ofNat'
    rw [Numeral.ofInt, number_digits false hn, if_neg hsign, hnatural]
    rfl
  | negSucc n =>
    have hle := value.le_toInt
    rw [hint] at hle
    have hn : n + 1 ≤ twoTo 63 := by omega
    rw [Numeral.ofInt, number_digits true (by omega), if_pos (Int.negSucc_lt_zero n), Number.ofWhole,
      if_pos rfl, if_pos ⟨Nat.succ_pos n, hn⟩]
    rw [hint] at hvalue
    exact congrArg (fun value => Except.ok (Number.negative value)) hvalue

theorem toNat_toUInt64 {value : Int64} (h : ¬value.toInt < 0) :
    (value.toUInt64.toNat : Int) = value.toInt := by
  rw [Int64.toNat_toUInt64_of_le (Int64.le_iff_toInt_le.mpr (Int.not_lt.mp h)), ← Int64.toNat_toInt,
    Int.toNat_of_nonneg (Int.not_lt.mp h)]

/-- An integer is printed in decimal notation, whichever kind of number it is. -/
theorem Number.ofInteger_text (value : Int64) :
    (Number.ofInteger value).text = Scalar.integerText value := by
  rw [ofInteger]
  split
  · rfl
  · next h =>
    rw [Scalar.integerText, ← toNat_toUInt64 h]
    rfl

/-- **An integer** is read as a mask from its own text. -/
theorem mask_ofInteger (value : Int64) :
    Mask.ofDatum? (.number (.ofInteger value)) = some (.integer value) := by
  rw [Number.ofInteger]
  split
  · rfl
  · next h =>
    have hnatural := toNat_toUInt64 h
    have hlt := value.toInt_lt
    have hlimit : twoTo 63 = 2 ^ 63 := rfl
    have hvalue : Int64.ofNat value.toUInt64.toNat = value := by
      rw [← Int64.ofInt_eq_ofNat, hnatural, Int64.ofInt_toInt]
    rw [Mask.ofDatum?, if_pos (by omega), hvalue]

/-- A number with a point or an exponent is worth a float, if anything. -/
theorem number_of_not_whole {n : Numeral} {number : Number} (hn : n.isWhole = false)
    (h : n.number = .ok number) : ∃ x, number = .float x := by
  unfold Numeral.number at h
  rw [hn] at h
  simp only [Bool.false_eq_true, false_and, if_false] at h
  split at h
  · split at h
    · cases h
      exact ⟨_, rfl⟩
    · contradiction
  · split at h
    · split at h
      · cases h
        exact ⟨_, rfl⟩
      · contradiction
    · split at h
      · contradiction
      · cases h
        exact ⟨_, rfl⟩

/-- A number is read for what it is worth, before anything that does not go on with it. -/
theorem readValue_numeral {n : Numeral} {number : Number} (hvalid : n.Valid)
    (hnumber : n.number = .ok number) (fuel depth : Nat) {before rest : List Char}
    (hbefore : Blank before) (hrest : NoNumber rest) :
    Datum.readValue (fuel + 1) depth (before ++ (n.text ++ rest)) = .ok (.number number, rest) := by
  have hread : readNumber (n.text ++ rest) = .ok (number, rest) := by
    simp only [readNumber, readNumeral_append hvalid hrest, hnumber]
  obtain ⟨c, tail, htext, hc⟩ := hvalid.head
  rw [htext, List.cons_append] at hread ⊢
  rw [Datum.readValue, skipBlank_append hbefore (show NoBlank (c :: _) from numberHead_noBlank hc)]
  split
  · contradiction
  · next heq => exact absurd (List.cons.inj heq).1 (numberHead_ne hc (by decide))
  · next heq => exact absurd (List.cons.inj heq).1 (numberHead_ne hc (by decide))
  · next heq => exact absurd (List.cons.inj heq).1 (numberHead_ne hc (by decide))
  · next heq => exact absurd (List.cons.inj heq).1 (numberHead_ne hc (by decide))
  · next heq => exact absurd (List.cons.inj heq).1 (numberHead_ne hc (by decide))
  · next heq => exact absurd (List.cons.inj heq).1 (numberHead_ne hc (by decide))
  · next heq =>
    cases heq
    rw [if_pos hc, hread]
    rfl

/-- A word is read as the datum that it stands for. -/
theorem readLiteral_datum (word : String) (datum : Datum) (rest : List Char) :
    Datum.readLiteral word datum (word.toList ++ rest) = .ok (datum, rest) := by
  rw [Datum.readLiteral, readWord_append]
  rfl

theorem readValue_null (fuel depth : Nat) {before : List Char} (hbefore : Blank before)
    (rest : List Char) :
    Datum.readValue (fuel + 1) depth (before ++ ("null".toList ++ rest)) = .ok (.null, rest) := by
  have htext : "null".toList ++ rest = 'n' :: ("ull".toList ++ rest) := rfl
  rw [htext, Datum.readValue, skipBlank_append hbefore (show NoBlank ('n' :: _) from rfl)]
  exact readLiteral_datum "ull" .null rest

theorem readValue_bool (value : Bool) (fuel depth : Nat) {before : List Char}
    (hbefore : Blank before) (rest : List Char) :
    Datum.readValue (fuel + 1) depth (before ++ ((toString value).toList ++ rest)) =
      .ok (.bool value, rest) := by
  cases value with
  | true =>
    have htext : (toString true).toList ++ rest = 't' :: ("rue".toList ++ rest) := rfl
    rw [htext, Datum.readValue, skipBlank_append hbefore (show NoBlank ('t' :: _) from rfl)]
    exact readLiteral_datum "rue" (.bool true) rest
  | false =>
    have htext : (toString false).toList ++ rest = 'f' :: ("alse".toList ++ rest) := rfl
    rw [htext, Datum.readValue, skipBlank_append hbefore (show NoBlank ('f' :: _) from rfl)]
    exact readLiteral_datum "alse" (.bool false) rest

/-! ## Floats -/

/-- The float that a number is worth. -/
def Number.toFloat : Number → Binary64
  | natural value => .ofNat value.toNat
  | negative value => (Binary64.ofNat value.toInt.natAbs).neg
  | float value => value

end Json

/-- Whether a float is finite, and the text that is printed for it is worth that float where it is
read again. -/
def Binary64.ReadsBack (x : Binary64) : Prop :=
  x.isFinite = true ∧ ∃ number : Number,
    readNumber (Layout.json.render x).toList = .ok (number, []) ∧ number.toFloat = x

/-- The text of a float is a float. -/
theorem Binary64.ReadsBack.numeral {x : Binary64} (h : x.ReadsBack) :
    ∃ n : Numeral, n.Valid ∧ n.text = (Layout.json.render x).toList ∧ n.number = .ok (.float x) := by
  obtain ⟨hfinite, number, hread, hworth⟩ := h
  obtain ⟨n, hvalid, hwhole, htext, -⟩ := render_text hfinite
  have hnumeral := readNumeral_append hvalid (show NoNumber [] from trivial)
  rw [List.append_nil] at hnumeral
  rw [← htext, readNumber, hnumeral] at hread
  cases hnumber : n.number with
  | error left =>
    simp only [hnumber] at hread
    contradiction
  | ok found =>
    simp only [hnumber] at hread
    cases hread
    obtain ⟨y, rfl⟩ := number_of_not_whole hwhole hnumber
    exact ⟨n, hvalid, htext, hworth ▸ hnumber⟩

/-- One is printed as 1.0, and read again as a float. -/
theorem Binary64.readsBack_one : (⟨0x3FF0000000000000⟩ : Binary64).ReadsBack := by
  have hread : readNumber (Layout.json.render ⟨0x3FF0000000000000⟩).toList =
      .ok (.float ⟨0x3FF0000000000000⟩, []) := ok_of_toOption (by decide +kernel)
  exact ⟨by decide +kernel, _, hread, rfl⟩

/-! ## Masks -/

/-- Whether a mask is no float, or one that is worth the text that is printed for it. -/
def Mask.ReadsBack : Mask → Prop
  | .float x => x.ReadsBack
  | .null | .bool _ | .integer _ | .string _ => True

namespace Config

/-- A printed mask is read as the datum that it was printed for. -/
theorem read_maskDatum {mask : Mask} (h : mask.ReadsBack) (indent depth : Nat)
    {before rest : List Char} (hbefore : Blank before) (hrest : NoNumber rest) :
    Datum.read depth (before ++ (((maskDatum mask).pretty indent).toList ++ rest)) =
      .ok (maskDatum mask, rest) := by
  rw [Datum.read, Datum.fuelFor]
  cases mask with
  | null => exact readValue_null _ depth hbefore rest
  | bool value => exact readValue_bool value _ depth hbefore rest
  | integer value =>
    have htext : (Number.ofInteger value).text.toList = (Numeral.ofInt value.toInt).text := by
      rw [Number.ofInteger_text, Numeral.ofInt_text]
      rfl
    have hdatum : maskDatum (.integer value) = .number (.ofInteger value) := rfl
    rw [hdatum, Datum.pretty, htext]
    exact readValue_numeral (Numeral.ofInt_valid _) (number_ofInt value) _ depth hbefore hrest
  | float x =>
    obtain ⟨n, hvalid, htext, hnumber⟩ := Binary64.ReadsBack.numeral h
    rw [maskDatum, if_pos h.1, Datum.pretty, Number.text, ← htext]
    exact readValue_numeral hvalid hnumber _ depth hbefore hrest
  | string text =>
    obtain ⟨inner, htext, hread⟩ := Shape.readString_quote text rest
    rw [maskDatum, Datum.pretty, htext, Datum.readValue,
      skipBlank_append hbefore (show NoBlank ('"' :: inner) from rfl)]
    simp only [hread, Except.map, String.ofList_toList]

/-- The datum of a mask is that mask. -/
theorem ofDatum?_maskDatum {mask : Mask} (h : mask.ReadsBack) :
    Mask.ofDatum? (maskDatum mask) = some mask := by
  cases mask with
  | integer value => exact mask_ofInteger value
  | float x =>
    rw [maskDatum, if_pos h.1]
    rfl
  | null | bool value | string text => rfl

variable {depth : Nat}

theorem mask_reads {mask : Mask} (h : mask.ReadsBack) :
    Mask.shape.Reads depth (maskDatum mask) mask := by
  intro indent before rest hbefore hrest
  simp only [Mask.shape, read_maskDatum h indent depth hbefore hrest, ofDatum?_maskDatum h]

theorem texts_reads (hdepth : 1 < depth) (texts : List String) :
    (Shape.list .string).Reads depth (textsDatum texts) texts :=
  Shape.list_reads hdepth fun text _ => Shape.string_reads (depth - 1) text

/-! ## Rules -/

open Shape (Record)

/-- A record takes a field that it has, with the value that the shape of the field reads. -/
theorem takes_field {σ α : Type} {record : Record σ} {name : String} {optional : Bool} {shape : Shape α}
    {get : σ → Option α} {set : σ → α → σ} {datum : Datum} {value : α} {state last : σ}
    {fields : List (String × Datum)}
    (found : record.fields.find? (fun field => field.name.toList = name.toList) =
      some (field name optional shape get set))
    (unset : (get state).isSome = false) (h : shape.Reads depth datum value)
    (tail : record.Takes depth (set state value) fields last) :
    record.Takes depth state ((name, datum) :: fields) last :=
  .cons found unset (h.map (set state)) tail

/-- What is read of a rule: its patterns, and its mask if it has one. -/
theorem rule_takes (type : String) {patterns : String} (hname : patterns ≠ "mask") {rule : Rule}
    (hdepth : 1 < depth) (hmask : ∀ mask, rule.mask = some mask → mask.ReadsBack) :
    Record.Takes (ruleRecord type patterns) depth {}
      ((patterns, textsDatum rule.patterns) ::
        (rule.mask.map fun mask => ("mask", maskDatum mask)).toList)
      ⟨some rule.patterns, rule.mask⟩ := by
  have hpatterns := texts_reads hdepth rule.patterns
  refine takes_field (List.find?_cons_of_pos (decide_eq_true rfl)) rfl hpatterns ?_
  obtain ⟨texts, _ | mask⟩ := rule
  · exact .nil
  · have hother : ¬decide (patterns.toList = "mask".toList) = true :=
      fun h => hname (String.toList_inj.mp (of_decide_eq_true h))
    have hfound : (ruleRecord type patterns).fields.find?
          (fun field => field.name.toList = "mask".toList) =
        some (field "mask" true Mask.shape (·.mask) fun draft value =>
          { draft with mask := some value }) := by
      refine (List.find?_cons_of_neg ?_).trans (List.find?_cons_of_pos (decide_eq_true rfl))
      exact hother
    exact takes_field hfound rfl (mask_reads (hmask mask rfl)) .nil

theorem rule_reads (type : String) {patterns : String} (hname : patterns ≠ "mask") {rule : Rule}
    (hdepth : 2 < depth) (hmask : ∀ mask, rule.mask = some mask → mask.ReadsBack) :
    (ruleShape type patterns).Reads depth (ruleDatum patterns rule) rule := by
  have htakes := rule_takes type hname (show 1 < depth - 1 by omega) hmask
  have hread := htakes.reads (by omega) (by rfl)
  exact hread.map fun draft => (⟨draft.patterns.getD [], draft.mask⟩ : Rule)

/-! ## Configurations -/

/-- Whether every float among the masks of a configuration is worth its printed text. -/
structure ReadsBack (config : Config) : Prop where
  defaultMask : config.defaultMask.ReadsBack
  pathMasks : ∀ rule ∈ config.pathMasks, ∀ mask, rule.mask = some mask → mask.ReadsBack
  valueMasks : ∀ rule ∈ config.valueMasks, ∀ mask, rule.mask = some mask → mask.ReadsBack

theorem rules_reads (type : String) {patterns : String} (hname : patterns ≠ "mask") {rules : List Rule}
    (hdepth : 3 < depth) (hmasks : ∀ rule ∈ rules, ∀ mask, rule.mask = some mask → mask.ReadsBack) :
    (Shape.list (ruleShape type patterns)).Reads depth (.array (rules.map (ruleDatum patterns))) rules :=
  Shape.list_reads (by omega) fun rule hrule => rule_reads type hname (by omega) (hmasks rule hrule)

/-- What is read of a configuration: every field of it. -/
def drafted (config : Config) : Draft :=
  ⟨some config.schemaVersion, some config.defaultMask, some config.paths, some config.pathMasks,
    some config.values, some config.valueMasks⟩

/-- **A printed configuration** is read field by field. -/
theorem config_reads {config : Config} (h : config.ReadsBack) (hdepth : 4 < depth) :
    record.shape.Reads depth config.datum config.drafted := by
  have hversion := Shape.string_reads (depth - 1) config.schemaVersion
  have hmask : Mask.shape.Reads (depth - 1) _ _ := mask_reads h.defaultMask
  have hpaths := texts_reads (show 1 < depth - 1 by omega) config.paths
  have hpathMasks := rules_reads "PathMaskRule" (show "paths" ≠ "mask" by decide)
    (show 3 < depth - 1 by omega) h.pathMasks
  have hvalues := texts_reads (show 1 < depth - 1 by omega) config.values
  have hvalueMasks := rules_reads "ValueMaskRule" (show "values" ≠ "mask" by decide)
    (show 3 < depth - 1 by omega) h.valueMasks
  refine Record.Takes.reads (by omega) ?_ rfl
  refine takes_field rfl rfl hversion ?_
  refine takes_field rfl rfl hmask ?_
  refine takes_field rfl rfl hpaths ?_
  refine takes_field rfl rfl hpathMasks ?_
  refine takes_field rfl rfl hvalues ?_
  exact takes_field rfl rfl hvalueMasks .nil

/-- **The text of a configuration** says that configuration. -/
theorem ofJson_saved {config : Config} (h : config.ReadsBack) :
    ofJson config.saved.toList = .ok config := by
  have hread := config_reads h (show 4 < Datum.depthLimit by decide) 0 [] [] (List.forall_mem_nil _) trivial
  rw [List.nil_append, List.append_nil] at hread
  have hend : readEnd [] = .ok () := rfl
  simp only [ofJson, saved, Shape.ofText, hread, hend]
  rfl

/-! ## Files -/

/-- A configuration is saved by writing its text. -/
theorem write_of_save {config : Config} {folder after : Folder} {path : String}
    (h : config.save folder path = .ok after) :
    folder.write path config.saved.toUTF8.data.toList = .ok after := by
  rw [save] at h
  generalize folder.write path config.saved.toUTF8.data.toList = written at h ⊢
  cases written with
  | error fault => contradiction
  | ok written =>
    cases h
    rfl

/-- **Saving and loading loses nothing.** If every float among the masks of a configuration is worth
the text that is printed for it, the text of the configuration says just this configuration, and so
does a file with the extension of JSON once the configuration has been saved there. -/
theorem load_save (config : Config) (h : config.ReadsBack) :
    ofJson config.saved.toList = .ok config ∧
      ∀ (folder after : Folder) (path : String), extension? path = some "json" →
        config.save folder path = .ok after → load after path = .ok config := by
  have hsaid := ofJson_saved h
  refine ⟨hsaid, fun folder after path hextension hsave => ?_⟩
  have hbytes : Text.ofBytes? config.saved.toUTF8.data.toList = some config.saved :=
    Text.ofBytes?_eq_some.mpr (Text.toUTF8_toList config.saved)
  rw [load, Folder.read_write (write_of_save hsave), ofFile]
  simp only [hbytes, hextension, hsaid]
  rfl

/-- Masks that are easily taken for one another: null and none at all, one as a float and as an
integer, and the word for null. -/
theorem load_save_masks :
    let config : Config :=
      { defaultMask := .float ⟨0x3FF0000000000000⟩, paths := ["/a\n"]
        pathMasks := [⟨["b"], some .null⟩, ⟨[], none⟩, ⟨["c", "d"], some (.integer 1)⟩]
        valueMasks := [⟨["^x$"], some (.string "null")⟩] }
    config.ReadsBack ∧ extension? "masks.JSON" = some "json" ∧
      ∃ after, config.save .empty "masks.JSON" = .ok after ∧ load after "masks.JSON" = .ok config := by
  intro config
  have hreads : config.ReadsBack := by
    refine ⟨Binary64.readsBack_one, ?_, ?_⟩ <;> simp [config, Mask.ReadsBack]
  have hextension : extension? "masks.JSON" = some "json" := by decide +kernel
  have hfind : Folder.empty.find "masks.JSON" = .ok (["masks.JSON"], none) :=
    ok_of_toOption (by decide +kernel)
  obtain ⟨after, hsave⟩ : ∃ after, config.save .empty "masks.JSON" = .ok after := by
    have hfile : Folder.meansDirectory "masks.JSON" = false := by decide +kernel
    simp only [save, Folder.write, hfind, hfile]
    exact ⟨_, rfl⟩
  exact ⟨hreads, hextension, after, hsave,
    (load_save config hreads).2 .empty after "masks.JSON" hextension hsave⟩

end Config

end StreamMask
