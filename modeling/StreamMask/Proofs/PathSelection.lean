/-
Which members a path selects.

What a path says can be read off its text, part by part (`Path.said?`): a name, or
nothing in particular. It selects the member in progress if the containers innermost
are at the members that its parts name, in order, and if there are no others around
them where the path is absolute (`Path.Selects`). An item is named by the decimal
text of its index. The index that a token keeps for a name is only there to be compared
with that of an item, and never makes a difference.
-/
import Mathlib.Data.List.Forall2
import StreamMask.Proofs.PathNotation
import StreamMask.Proofs.ReachedPositions

namespace StreamMask

/-- What the member in progress is called: the name of a field, or the decimal text of the index of an
item. -/
def Frame.label? : Frame → Option String
  | object pending => pending
  | array index => some (toString index)

theorem Frame.label?_isSome (frame : Frame) : frame.label?.isSome = frame.hasPosition := by
  cases frame with
  | object pending => rfl
  | array index => rfl

namespace Path

/-- The name that a part of a path says, if any. -/
def said? (part : List Char) : Option String :=
  if part = ['*'] then none else some (unescape (String.ofList part))

/-- Whether a container is at a member, and at that of the name if there is one. -/
def Names (said : Option String) (frame : Frame) : Prop :=
  ∃ label, frame.label? = some label ∧ ∀ name, said = some name → name = label

/-- Whether a path selects the member in progress at a place. -/
def Selects (text : String) (place : Position) : Prop :=
  let said := (parts text.toList).map said?
  said.length ≤ place.depth ∧
    List.Forall₂ Names said (place.frames.take said.length).reverse ∧
    (text.toList.head? = some '/' → place.depth = said.length)

theorem names_none {frame : Frame} : Names none frame ↔ frame.hasPosition = true := by
  rw [← frame.label?_isSome, Option.isSome_iff_exists]
  simp [Names]

theorem names_some {name : String} {frame : Frame} :
    Names (some name) frame ↔ frame.label? = some name := by
  simp [Names]

/-- A token fits what its part names. -/
theorem ofPart_fits {part : List Char} {frame : Frame}
    (hcounted : ∀ index, frame = .array index → index < twoTo 64) :
    (Token.ofPart part).fits frame = true ↔ Names (said? part) frame := by
  unfold Token.ofPart said?
  split
  · rw [names_none]
    rfl
  · rw [names_some, unescape, String.toList_ofList]
    cases frame with
    | object pending => exact Token.named_fits_object
    | array index =>
      rw [Token.named_fits_array, and_iff_right (hcounted index rfl), Frame.label?,
        Option.some.injEq, eq_comm]

end Path

namespace Pattern

open StreamMask.Path

theorem fitTokens_eq_some {tokens : List Token} {frames outer : List Frame} :
    fitTokens tokens frames = some outer ↔
      tokens.length ≤ frames.length ∧
        List.Forall₂ (fun token frame => token.fits frame = true) tokens
          (frames.take tokens.length) ∧
        frames.drop tokens.length = outer := by
  induction tokens generalizing frames with
  | nil => simp [fitTokens]
  | cons token tokens ih =>
    cases frames with
    | nil => simp [fitTokens]
    | cons frame frames =>
      rw [fitTokens]
      split
      · next h => simp [ih, h]
      · next h => simp [h]

/-- A path fits if its tokens fit the containers innermost, and there are no others around them where
it is absolute. -/
theorem fits_iff {p : Pattern} {place : Position} :
    p.fits place = true ↔
      p.tokens.length ≤ place.depth ∧
        List.Forall₂ (fun token frame => token.fits frame = true) p.tokens
          (place.frames.take p.tokens.length).reverse ∧
        (p.absolute = true → place.depth = p.tokens.length) := by
  have hfits : p.fits place = true ↔ ∃ outer, fitTokens p.tokens.reverse place.frames = some outer ∧
      (p.absolute = true → outer = []) := by
    unfold fits
    cases fitTokens p.tokens.reverse place.frames with
    | none => simp
    | some outer => cases p.absolute <;> simp
  rw [hfits, ← List.forall₂_reverse_iff, List.reverse_reverse]
  simp only [fitTokens_eq_some, List.length_reverse]
  constructor
  · rintro ⟨outer, ⟨hlength, hinner, rfl⟩, habsolute⟩
    refine ⟨hlength, hinner, fun h => ?_⟩
    exact Nat.le_antisymm (List.drop_eq_nil_iff.mp (habsolute h)) hlength
  · rintro ⟨hlength, hinner, habsolute⟩
    exact ⟨_, ⟨hlength, hinner, rfl⟩, fun h => List.drop_eq_nil_iff.mpr (habsolute h).le⟩

/-- A path fits where its text says, if a word holds the index of each item. -/
theorem fits_iff_of_counted {text : String} {p : Pattern} (hp : parse text = .ok p)
    {place : Position} (hcounted : place.Counted) : p.fits place = true ↔ Selects text place := by
  obtain ⟨-, -, rfl⟩ := parse_eq_ok.mp hp
  have hparts {frames : List Frame} (hframes : ∀ frame ∈ frames, frame ∈ place.frames) :
      List.Forall₂ (fun part frame => (Token.ofPart part).fits frame = true) (parts text.toList)
          frames ↔
        List.Forall₂ (fun part frame => Names (said? part) frame) (parts text.toList) frames := by
    rw [List.forall₂_iff_zip, List.forall₂_iff_zip]
    refine and_congr_right fun _ => forall₂_congr fun part frame => forall_congr' fun hmem => ?_
    exact ofPart_fits fun index heq =>
      hcounted index (heq ▸ hframes frame (List.of_mem_zip hmem).2)
  have hinner : ∀ frame ∈ (place.frames.take (parts text.toList).length).reverse,
      frame ∈ place.frames := fun frame hmem =>
    List.mem_of_mem_take (List.mem_reverse.mp hmem)
  simp only [fits_iff, Selects, List.length_map, List.forall₂_map_left_iff, decide_eq_true_eq]
  rw [hparts hinner]

/-- **A path selects what its text says**, wherever events have led. No index that a token keeps makes
a difference: a name fits the field of that name, and the item whose index has that name as its
decimal text. -/
theorem fits_iff_selects {text : String} {p : Pattern} (hp : parse text = .ok p) :
    (∀ place : Position, place.Reached → (p.fits place = true ↔ Selects text place)) ∧
      ∀ name kept, Token.literal name kept ∈ p.tokens →
        (∀ pending, (Token.literal name kept).fits (.object pending) = true ↔
          pending = some name) ∧
        ∀ index, (Token.literal name kept).fits (.array index) = true ↔
          index < twoTo 64 ∧ name = toString index := by
  refine ⟨fun place hplace => fits_iff_of_counted hp hplace.counted, fun name kept hmem => ?_⟩
  have hnamed : Token.literal name kept = .named name := by
    obtain ⟨-, -, rfl⟩ := parse_eq_ok.mp hp
    obtain ⟨part, -, hpart⟩ := List.mem_map.mp hmem
    unfold Token.ofPart at hpart
    split at hpart
    · cases hpart
    · rw [Token.named] at hpart ⊢
      cases hpart
      rfl
  rw [hnamed]
  exact ⟨fun pending => Token.named_fits_object, fun index => Token.named_fits_array⟩

/-- A path to the second of the rows, and three that only look like it. -/
theorem fits_iff_selects_rows :
    let events : List Event := [.beginObject none, .field "rows", .beginArray none, .scalar .null]
    let second := (Sink.feed (Masking.start .empty Recorder.empty) events).position
    second.Reached ∧ Selects "rows/1" second ∧ ¬Selects "rows/01" second ∧
      ¬Selects "rows/+1" second ∧ ¬Selects "/1" second := by
  intro events second
  have hreached : second.Reached := Masking.feed_reached _ _ (by decide)
  have hfit : ∀ text p, parse text = .ok p → (p.fits second = true ↔ Selects text second) :=
    fun text p hp => (fits_iff_selects hp).1 second hreached
  refine ⟨hreached, (hfit "rows/1" ⟨false, [.named "rows", .named "1"]⟩ ?_).mp ?_,
    mt (hfit "rows/01" ⟨false, [.named "rows", .named "01"]⟩ ?_).mpr ?_,
    mt (hfit "rows/+1" ⟨false, [.named "rows", .named "+1"]⟩ ?_).mpr ?_,
    mt (hfit "/1" ⟨true, [.named "1"]⟩ ?_).mpr ?_⟩ <;> decide +kernel

end Pattern
end StreamMask
