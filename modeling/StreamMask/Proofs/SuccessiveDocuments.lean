/-
Several documents through one stream.

A text that can be masked leaves the stream as it found it, at the root and with nothing
held back, and the writer knows of it only that there has been a document
(`replayText_start`). So each of several texts comes out as it does alone, and line ends
stand between them.
-/
import StreamMask.Proofs.MaskedText

namespace StreamMask.Masking

open Json

variable {set : MaskerSet}

/-- Replay texts one after the other into the same stream. After each, the stream is checked and
flushed if that is asked for. -/
def replayEach {σ : Type} [Sink σ] (stream : Masking σ) : List (String × Bool) → Outcome (Masking σ)
  | [] => (stream, .ok ())
  | (text, finishes) :: documents =>
    Outcome.andThen (replayText text stream) fun stream =>
      Outcome.andThen (if finishes then stream.finish else (stream, .ok ())) fun stream =>
        replayEach stream documents

/-- A writer between documents: what it has written, and whether that was anything. -/
def between (output : String) (begun : Bool) : Writer String :=
  { output := output, begun := begun }

/-- **A document leaves no trace but its text.** -/
theorem replayText_start {text out : String} (h : maskText set text = .ok out) (output : String)
    (begun : Bool) :
    replayText text (start set (between output begun)) =
      (start set (between (output ++ (if begun then "\n" else "") ++ out) true), .ok ()) := by
  obtain ⟨value, shown, hspells, hsound, hshown, rfl⟩ := maskText_eq_ok.mp h
  rw [replayText_sound hspells hsound, start_writeAll_shows Writer.write_ok hshown,
    Writer.writeAll_tree]
  rfl

theorem replayEach_cons {text out : String} (h : maskText set text = .ok out) (finishes : Bool)
    (documents : List (String × Bool)) (output : String) (begun : Bool) :
    replayEach (start set (between output begun)) ((text, finishes) :: documents) =
      replayEach (start set (between (output ++ (if begun then "\n" else "") ++ out) true))
        documents := by
  rw [replayEach, replayText_start h, Outcome.andThen_ok]
  cases finishes <;> rfl

/-- After a first document, each one adds a line end and its text. -/
theorem replayEach_begun {documents : List (String × Bool)} {outs : List String}
    (h : documents.map (fun document => maskText set document.1) = outs.map .ok) (output : String) :
    replayEach (start set (between output true)) documents =
      (start set (between ("\n".intercalate (output :: outs)) true), .ok ()) := by
  induction documents generalizing outs output with
  | nil =>
    rw [List.map_nil, eq_comm, List.map_eq_nil_iff] at h
    rw [h, String.intercalate_singleton]
    rfl
  | cons document documents ih =>
    obtain ⟨text, finishes⟩ := document
    cases outs with
    | nil => contradiction
    | cons out outs =>
      obtain ⟨hfirst, hothers⟩ := List.cons.inj h
      rw [replayEach_cons hfirst, if_pos rfl, ih hothers, String.intercalate_cons_append,
        String.intercalate_cons_cons]

/-- **Documents through one stream do not influence each other.** If each of some texts can be
masked, they can be replayed into one stream, finished in between or not. After every one of them the
stream is at the root and holds nothing back, and what has been written is what the texts are masked
as, with line ends in between. -/
theorem replayEach_separates (set : MaskerSet) (documents : List (String × Bool)) (outs : List String)
    (h : documents.map (fun document => maskText set document.1) = outs.map .ok) (count : Nat) :
    ∃ writer : Writer String,
      replayEach (start set (Writer.fresh "")) (documents.take count) =
        (⟨set, writer, .root, 0⟩, .ok ()) ∧
      writer.output = "\n".intercalate (outs.take count) := by
  have htaken : (documents.take count).map (fun document => maskText set document.1) =
      (outs.take count).map .ok := by
    rw [List.map_take, h, List.map_take]
  generalize documents.take count = documents, outs.take count = outs at htaken ⊢
  cases documents with
  | nil =>
    rw [List.map_nil, eq_comm, List.map_eq_nil_iff] at htaken
    exact ⟨Writer.fresh "", rfl, by rw [htaken, String.intercalate_nil]; rfl⟩
  | cons document documents =>
    obtain ⟨text, finishes⟩ := document
    cases outs with
    | nil => contradiction
    | cons out outs =>
      obtain ⟨hfirst, hothers⟩ := List.cons.inj htaken
      have hrun := replayEach_cons hfirst finishes documents "" false
      rw [replayEach_begun hothers] at hrun
      refine ⟨_, hrun, ?_⟩
      show "\n".intercalate (("" ++ "" ++ out) :: outs) = _
      rw [String.empty_append, String.empty_append]

/-- What is held back at the end of a document is not held back in the next. -/
theorem replayEach_separates_pins :
    let set : MaskerSet := { fieldMaskers := [.names ⟨["pin"], .string "***"⟩] }
    let documents := [("\x7b\"pin\": [1, \x7b\"pin\": 2\x7d]\x7d", false), (" 3", true), ("[[], \"a\"]", false)]
    let outs := ["\x7b\"pin\":\"***\"\x7d", "3", "[[],\"a\"]"]
    documents.map (fun document => maskText set document.1) = outs.map .ok ∧
      ∃ writer : Writer String,
        replayEach (start set (Writer.fresh "")) (documents.take 3) = (⟨set, writer, .root, 0⟩, .ok ()) ∧
        writer.output = "\n".intercalate (outs.take 3) := by
  intro set documents outs
  have h : documents.map (fun document => maskText set document.1) = outs.map .ok := by
    have hpin : maskText set "\x7b\"pin\": [1, \x7b\"pin\": 2\x7d]\x7d" = .ok "\x7b\"pin\":\"***\"\x7d" :=
      ok_of_toOption (by decide +kernel)
    have hnumber : maskText set " 3" = .ok "3" := ok_of_toOption (by decide +kernel)
    have hlist : maskText set "[[], \"a\"]" = .ok "[[],\"a\"]" :=
      ok_of_toOption (by decide +kernel)
    simp only [documents, outs, List.map_cons, List.map_nil, hpin, hnumber, hlist]
  exact ⟨h, replayEach_separates set documents outs h 3⟩

end StreamMask.Masking
