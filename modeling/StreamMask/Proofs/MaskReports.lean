/-
What comes of masking, as its user sees it.

Without a configuration that applies and whose rules and those of the command line can all
be read, nothing is written and the code is 11, whatever there is to be masked. Otherwise
every line is masked up to the first that is bad (`Lines.FirstBad`), and the code says
whether there is one: 22 if it is text, since then it fails as JSON, and 21 if it is none,
or if nothing could be read.
-/
import StreamMask.Proofs.CommandRules
import StreamMask.Proofs.MaskedLines

namespace StreamMask

namespace Lines

variable {set : MaskerSet} {lines : List (List UInt8)} {line : List UInt8} {shown : List (Option String)}
  {stop : Option Failure} {failure : Failure}

/-! ## Bad lines -/

/-- Whether something comes out of a line, or it is blank. -/
def Good (set : MaskerSet) (line : List UInt8) : Prop := ∃ shown, Shows set line shown

/-- Whether a line is the first that is not good. -/
def FirstBad (set : MaskerSet) (lines : List (List UInt8)) (line : List UInt8) : Prop :=
  ∃ before after, lines = before ++ line :: after ∧ (∀ earlier ∈ before, Good set earlier) ∧
    ¬Good set line

theorem good_or_firstBad (set : MaskerSet) (lines : List (List UInt8)) :
    (∀ line ∈ lines, Good set line) ∨ ∃ line, FirstBad set lines line := by
  induction lines with
  | nil => exact .inl (List.forall_mem_nil _)
  | cons line rest ih =>
    by_cases hgood : Good set line
    · rcases ih with hrest | ⟨bad, before, after, rfl, hbefore, hbad⟩
      · exact .inl (List.forall_mem_cons.mpr ⟨hgood, hrest⟩)
      · exact .inr ⟨bad, line :: before, after, rfl, List.forall_mem_cons.mpr ⟨hgood, hbefore⟩, hbad⟩
    · exact .inr ⟨line, [], rest, rfl, List.forall_mem_nil _, hgood⟩

theorem exists_masks_of_good (h : ∀ line ∈ lines, Good set line) : ∃ shown, Masks set lines shown none := by
  induction lines with
  | nil => exact ⟨[], .done⟩
  | cons line rest ih =>
    obtain ⟨⟨first, hfirst⟩, hrest⟩ := List.forall_mem_cons.mp h
    obtain ⟨shown, htail⟩ := ih hrest
    exact ⟨first :: shown, .shows hfirst htail⟩

/-- The first bad line ends the work, for what is wrong with it. -/
theorem FirstBad.exists_masks (h : FirstBad set lines line) :
    ∃ shown failure, Fails set line failure ∧ Masks set lines shown (some failure) := by
  obtain ⟨before, after, rfl, hbefore, hbad⟩ := h
  obtain ⟨failure, hfails⟩ := (shows_or_fails set line).resolve_left hbad
  obtain ⟨shown, hshown⟩ := exists_masks_of_good hbefore
  exact ⟨shown ++ [], failure, hfails, hshown.append (.failed hfails)⟩

/-! ## What is written -/

/-- What comes out of lines, as text: each with a line end behind it. -/
def printedText (shown : List (Option String)) : String :=
  String.join ((outs shown).map (· ++ "\n"))

@[simp] theorem printedText_nil : printedText [] = "" := rfl

theorem printedText_some (out : String) (shown : List (Option String)) :
    printedText (some out :: shown) = out ++ "\n" ++ printedText shown := by
  simp [printedText, outs, String.join_cons]

/-- What is written to a text that takes everything, and what is reported. -/
theorem Masks.maskFrom_text (h : Masks set lines shown stop) (output : String) (number count : Nat) :
    maskFrom set output number count lines =
      (output ++ printedText shown,
        report (number + shown.length) (count + (outs shown).length) stop) := by
  induction h generalizing output number count with
  | done =>
    rw [printedText_nil, String.append_empty]
    rfl
  | failed fails =>
    rw [maskFrom, fails.maskLine_eq, printedText_nil, String.append_empty]
    rfl
  | @shows line rest first shown stop head tail ih =>
    rw [maskFrom, head.maskLine_eq, List.length_cons, Nat.add_comm shown.length, ← Nat.add_assoc]
    cases first with
    | none => exact ih output (number + 1) count
    | some out =>
      have houts : (outs (some out :: shown)).length = 1 + (outs shown).length := Nat.add_comm _ 1
      rw [printedText_some, ← String.append_assoc, houts, ← Nat.add_assoc]
      exact ih (output ++ (out ++ "\n")) (number + 1) (count + 1)

theorem Masks.maskLines_text {input : List UInt8} (h : Masks set (ofBytes input) shown stop) :
    maskLines set input "" =
      (printedText shown, report shown.length (outs shown).length stop) := by
  rw [maskLines, split_eq, h.maskFrom_text, String.empty_append, Nat.zero_add, Nat.zero_add]

end Lines

namespace Command

open Lines

variable {diary : Diary} {options : MaskOptions} {around : Surroundings} {input : List UInt8}

/-! ## Codes -/

/-- Nothing is written of what cannot be opened or read. -/
theorem Diary.maskInput_error (diary : Diary) {fault : IoFault} (h : options.content around = .error fault) :
    (maskInput diary options around).output = "" ∧
      (maskInput diary options around).code = .ioError := by
  unfold maskInput
  rw [h]
  split
  · split
    · exact ⟨rfl, rfl⟩
    · exact ⟨rfl, rfl⟩
  · exact ⟨rfl, rfl⟩

/-- What has been opened is masked line by line. -/
theorem maskInput_ok (h : options.content around = .ok input) :
    maskInput diary options around = reportLines diary (.ok input) := by
  unfold maskInput
  rw [h]
  cases options.input <;> rfl

theorem reportLines_output :
    (reportLines diary (.ok input)).output = (maskLines diary.set input "").1 := by
  unfold reportLines maskContent
  split <;> simp_all

/-- Where every line is good, all is well. -/
theorem reportLines_good (h : ∀ line ∈ ofBytes input, Good diary.set line) :
    (reportLines diary (.ok input)).code = .clean := by
  obtain ⟨shown, hshown⟩ := exists_masks_of_good h
  rw [reportLines, maskContent, hshown.maskLines_text]
  rfl

/-- The code goes by what is wrong with the first bad line. -/
theorem reportLines_firstBad {line : List UInt8} (h : FirstBad diary.set (ofBytes input) line) :
    ∃ failure, Fails diary.set line failure ∧
      (reportLines diary (.ok input)).code = .ofFailure failure := by
  obtain ⟨shown, failure, hfails, hshown⟩ := h.exists_masks
  refine ⟨failure, hfails, ?_⟩
  rw [reportLines, maskContent, hshown.maskLines_text]
  rfl

/-- A line that is text fails as JSON. -/
theorem ofFailure_text {set : MaskerSet} (hset : set.NeverFails) {line : List UInt8}
    {failure : Failure} (h : Fails set line failure)
    (htext : ∃ text : String, Text.encode text.toList = line) :
    ExitCode.ofFailure failure = .maskingError := by
  cases h with
  | notText differs =>
    obtain ⟨text, heq⟩ := htext
    exact absurd heq (differs text)
  | @notMasked text failure filled answer =>
    by_cases hdocument : Json.IsDocument text
    · obtain ⟨shown, -, hmasked, -⟩ := maskText_of_document hset hdocument
      rw [hmasked] at answer
      contradiction
    · obtain ⟨fault, hfault⟩ := maskText_of_not_document hset hdocument
      rw [hfault] at answer
      cases answer
      rfl

/-- A line that is no text fails for that. -/
theorem ofFailure_notText {set : MaskerSet} {line : List UInt8} {failure : Failure}
    (h : Fails set line failure) (hdiffers : ∀ text : String, Text.encode text.toList ≠ line) :
    ExitCode.ofFailure failure = .ioError := by
  cases h with
  | notText => rfl
  | notMasked => exact absurd rfl (hdiffers _)

/-- Where one of three things is the case and each has a code of its own, the code tells which. -/
theorem number_iff {code : ExitCode} {good bad unread : Prop} (hgood : good → code = .clean)
    (hbad : bad → code = .maskingError) (hunread : unread → code = .ioError)
    (hcases : good ∨ bad ∨ unread) :
    code ∈ [.clean, .ioError, .maskingError] ∧ (code.number = 0 ↔ good) ∧
      (code.number = 22 ↔ bad) ∧ (code.number = 21 ↔ unread) := by
  rcases hcases with h | h | h
  · obtain rfl := hgood h
    simp_all [ExitCode.number]
  · obtain rfl := hbad h
    simp_all [ExitCode.number]
  · obtain rfl := hunread h
    simp_all [ExitCode.number]

/-- **What the code says of the lines.** -/
theorem Diary.reportLines_code (diary : Diary) (hset : diary.set.NeverFails) (input : List UInt8) :
    let code := (reportLines diary (.ok input)).code
    code ∈ [.clean, .ioError, .maskingError] ∧
      (code.number = 0 ↔ ∀ line ∈ ofBytes input, Good diary.set line) ∧
      (code.number = 22 ↔ ∃ line, FirstBad diary.set (ofBytes input) line ∧
        ∃ text : String, Text.encode text.toList = line) ∧
      (code.number = 21 ↔ ∃ line, FirstBad diary.set (ofBytes input) line ∧
        ∀ text : String, Text.encode text.toList ≠ line) := by
  refine number_iff reportLines_good ?_ ?_ ?_
  · rintro ⟨line, hbad, htext⟩
    obtain ⟨failure, hfails, hcode⟩ := reportLines_firstBad hbad
    exact hcode.trans (ofFailure_text hset hfails htext)
  · rintro ⟨line, hbad, hdiffers⟩
    obtain ⟨failure, hfails, hcode⟩ := reportLines_firstBad hbad
    exact hcode.trans (ofFailure_notText hfails hdiffers)
  · rcases good_or_firstBad diary.set (ofBytes input) with hgood | ⟨line, hbad⟩
    · exact .inl hgood
    · by_cases htext : ∃ text : String, Text.encode text.toList = line
      · exact .inr (.inl ⟨line, hbad, htext⟩)
      · exact .inr (.inr ⟨line, hbad, fun text heq => htext ⟨text, heq⟩⟩)

/-! ## Runs -/

/-- Whether a configuration applies, and its rules and those of the command line can all be read. -/
def Uses (options : MaskOptions) (around : Surroundings) (config : Config) : Prop :=
  Config.Applies around.read options.config (around.lookup configVariable) config ∧
    options.Readable config

/-- Without rules that can be used, nothing is written. -/
theorem runMask_refused (overrides : Log.Overrides) (h : ¬∃ config, Uses options around config) :
    (runMask overrides options around).output = "" ∧
      (runMask overrides options around).code = .configError := by
  unfold runMask
  split
  · exact ⟨rfl, rfl⟩
  · next resolved hresolved =>
    split
    · exact ⟨rfl, rfl⟩
    · next set hset =>
      have happlies := Config.resolve_isOk.mp ⟨resolved, hresolved, rfl⟩
      exact absurd ⟨_, happlies, MaskOptions.extend_isOk.mp ⟨set, hset⟩⟩ h

/-- With them, the input is masked with what they are built to. -/
theorem runMask_built (overrides : Log.Overrides) {config : Config} (h : Uses options around config) :
    ∃ set, (options.extend config.rules).build = .ok set ∧
      let report := maskInput (.start overrides around set) options around
      (runMask overrides options around).output = report.output ∧
        (runMask overrides options around).code = report.code := by
  obtain ⟨happlies, hreadable⟩ := h
  obtain ⟨resolved, hresolved, rfl⟩ := Config.resolve_isOk.mpr happlies
  obtain ⟨set, hset⟩ := MaskOptions.extend_isOk.mpr hreadable
  refine ⟨set, hset, ?_⟩
  simp only [runMask, hresolved, hset]
  exact ⟨rfl, rfl⟩

/-- **What comes of masking.** If no configuration applies, or some path or regular expression cannot
be read, nothing is written and the code is 11. Otherwise nothing is written and the code is 21 if the
input cannot be opened or read. Otherwise the lines of the input are masked with what is built of the
rules, those of the configuration first, and what comes out of the lines before the first bad one is
written. The code is 0 if all lines are good, and else 22 if the first bad one is text and 21 if it
is none. -/
theorem mask_reports (overrides : Log.Overrides) (options : MaskOptions) (around : Surroundings) :
    let report := run (.mask options) overrides around
    ((¬∃ config, Uses options around config) → report.output = "" ∧ report.code.number = 11) ∧
    ∀ config, Uses options around config →
      (∀ fault, options.content around = .error fault →
        report.output = "" ∧ report.code.number = 21) ∧
      ∀ input, options.content around = .ok input →
        ∃ default set, MaskOptions.DefaultMask config options.mask default ∧
          (options.allRules config default).build = .ok set ∧
          report.output = (maskLines set input "").1 ∧
          (∃ shown stop, Masks set (ofBytes input) shown stop ∧ report.output = printedText shown) ∧
          report.code ∈ [.clean, .ioError, .maskingError] ∧
          (report.code.number = 0 ↔ ∀ line ∈ ofBytes input, Good set line) ∧
          (report.code.number = 22 ↔ ∃ line, FirstBad set (ofBytes input) line ∧
            ∃ text : String, Text.encode text.toList = line) ∧
          (report.code.number = 21 ↔ ∃ line, FirstBad set (ofBytes input) line ∧
            ∀ text : String, Text.encode text.toList ≠ line) := by
  intro report
  refine ⟨fun hnone => ?_, fun config hconfig => ?_⟩
  · obtain ⟨houtput, hcode⟩ := runMask_refused overrides hnone
    exact ⟨houtput, congrArg ExitCode.number hcode⟩
  obtain ⟨set, hset, houtput, hcode⟩ := runMask_built overrides hconfig
  let diary := Diary.start overrides around set
  refine ⟨fun fault hfault => ?_, fun input hinput => ?_⟩
  · have hrefused := diary.maskInput_error hfault
    exact ⟨houtput.trans hrefused.1, congrArg ExitCode.number (hcode.trans hrefused.2)⟩
  · rw [maskInput_ok hinput] at houtput hcode
    obtain ⟨default, hdefault, hbuild⟩ := options.build_extend config
    obtain ⟨shown, stop, hshown⟩ := exists_masks set (ofBytes input)
    have hlines : report.output = (maskLines set input "").1 := houtput.trans reportLines_output
    have hcodes := diary.reportLines_code (MaskOptions.neverFails_of_build hset) input
    rw [← hcode] at hcodes
    exact ⟨default, set, hdefault, hbuild ▸ hset, hlines,
      ⟨shown, stop, hshown, hlines.trans (congrArg Prod.fst hshown.maskLines_text)⟩, hcodes⟩

/-- A line with a member to mask, a blank one, and one that is no JSON. -/
theorem mask_reports_pin :
    let bytes := "\x7b\"pin\":[1]\x7d\n \nx".toUTF8.data.toList
    let options : MaskOptions := { paths := ["pin"], mask := some " 0 " }
    let around : Surroundings := {
      read := fun _ => .error .notFound
      lookup := fun _ => none
      input := .ok bytes
      stamp := "" }
    let report := run (.mask options) {} around
    Uses options around {} ∧ report.output = "\x7b\"pin\":0\x7d\n" ∧ report.code.number = 22 ∧
      ∃ set line, FirstBad set (ofBytes bytes) line ∧ ∃ text : String, Text.encode text.toList = line := by
  intro bytes options around report
  have huses : Uses options around {} := by
    refine ⟨.unset, fun path hpath => ?_, fun text htext => nomatch htext⟩
    obtain rfl : path = "pin" := by simpa [options] using hpath
    exact ⟨⟨false, [.named "pin"]⟩, by decide +kernel⟩
  have hcode : report.code.number = 22 := by decide +kernel
  obtain ⟨-, hused⟩ := mask_reports {} options around
  obtain ⟨default, set, -, -, -, -, -, -, hmasking, -⟩ := (hused {} huses).2 bytes rfl
  exact ⟨huses, by decide +kernel, hcode, set, hmasking.mp hcode⟩

end Command
end StreamMask
