import Phrasebook.Proofs.StrictReading

/-!
# The strict reading, put together from readers of parts

A reader of a part takes the front of a text. It fails softly, and then another reader may be
tried in its place, or it fails hard, and then the whole reading ends where it stands. A text is
read by repeating the reader of a segment, which tries three readers: one of a placeholder, which
fails hard once its braces are open, one of text up to the next brace, and one of a single brace.
A reading of this kind can also end early without a failure, or fail softly as a whole. Neither
happens: it is the strict reading, and its only failure is the hard one of a placeholder.
-/
namespace Phrasebook.Template

open Segment Text

variable {α β : Type}

/-- What a reader of a part comes to: a value, a soft failure, or a hard one. Each says what is
left of the text. -/
inductive Attempt (α : Type) where
  | done (value : α) (left : List Char)
  | soft (left : List Char)
  | hard (left : List Char)
  deriving DecidableEq, Repr

namespace Attempt

def andThen (attempt : Attempt α) (next : α → List Char → Attempt β) : Attempt β :=
  match attempt with
  | done value left => next value left
  | soft left => soft left
  | hard left => hard left

def map (f : α → β) (attempt : Attempt α) : Attempt β :=
  attempt.andThen fun value left => done (f value) left

/-- A soft failure counts as a hard one. -/
def harden : Attempt α → Attempt α
  | soft left => hard left
  | other => other

end Attempt

abbrev PartReader (α : Type) := List Char → Attempt α

namespace PartReader

def exactly (token : List Char) : PartReader Unit := fun s =>
  if token <+: s then .done () (s.drop token.length) else .soft s

/-- Takes what stands in front of the first closing braces, which is one character at least. -/
def upToClosing : PartReader (List Char) := fun s =>
  match splitAtClosing s with
  | none => .soft s
  | some (inner, behind) => if inner = [] then .soft s else .done inner (closing ++ behind)

/-- Takes the characters in front of the first one that satisfies `p`, one at least. -/
def upTo (p : Char → Bool) : PartReader (List Char) := fun s =>
  if s.takeWhile (!p ·) = [] then .soft s
  else .done (s.takeWhile (!p ·)) (s.dropWhile (!p ·))

def preceded (opener : PartReader α) (reader : PartReader β) : PartReader β := fun s =>
  (opener s).andThen fun _ left => reader left

def terminated (reader : PartReader α) (closer : PartReader β) : PartReader α := fun s =>
  (reader s).andThen fun value left => (closer left).map fun _ => value

/-- Turns what a reader takes into a value. Where it has none, nothing is taken. -/
def filterMap (f : α → Option β) (reader : PartReader α) : PartReader β := fun s =>
  (reader s).andThen fun value left =>
    match f value with
    | some result => .done result left
    | none => .soft s

/-- Tries readers in turn at the same front, up to the first that does not fail softly. -/
def firstOf : List (PartReader α) → PartReader α
  | [], s => .soft s
  | reader :: others, s =>
    match reader s with
    | .soft _ => firstOf others s
    | attempt => attempt

/-- Repeats a reader until it fails softly, which leaves what stood there. A reader that takes
nothing is not repeated: it fails. -/
def repeated (reader : PartReader α) (s : List Char) : Attempt (List α) :=
  match reader s with
  | .soft _ => .done [] s
  | .hard left => .hard left
  | .done value left =>
    if left.length < s.length then (repeated reader left).map (value :: ·) else .soft left
termination_by s.length

def content : PartReader Segment :=
  filterMap ofInner? (terminated upToClosing (exactly closing))

def placeholder : PartReader Segment :=
  preceded (exactly opening) fun s => (content s).harden

def literalRun : PartReader Segment := fun s =>
  (upTo (· = '\x7b') s).map fun text => literal (String.ofList text)

def loneBrace : PartReader Segment := fun s =>
  (exactly ['\x7b'] s).map fun _ => literal "\x7b"

def segment : PartReader Segment :=
  firstOf [placeholder, literalRun, loneBrace]

end PartReader

/-- Puts text in front of segments, into the literal there if there is one. -/
def inFront (text : String) : List Segment → List Segment
  | literal more :: rest => literal (text ++ more) :: rest
  | other => literal text :: other

/-- The segments with adjacent literals made one. -/
def joined : List Segment → List Segment
  | [] => []
  | literal text :: rest => inFront text (joined rest)
  | placeholder path raw :: rest => placeholder path raw :: joined rest

structure SyntaxFault where
  place : Place
  message : String
  deriving DecidableEq, Repr

/-- Reads a text by its parts. `wording` is how a soft failure of the whole is worded. -/
def readParts (wording text : String) : Except SyntaxFault Template :=
  let faultAt (left : List Char) (message : String) : SyntaxFault :=
    ⟨Place.ofOffset text.toList (text.utf8ByteSize - byteLength left), message⟩
  match PartReader.repeated PartReader.segment text.toList with
  | .done parts [] => .ok ⟨joined parts⟩
  | .done _ (c :: left) => .error (faultAt (c :: left) s!"unexpected character: '{c}'")
  | .hard left => .error (faultAt left "unterminated or malformed placeholder")
  | .soft left => .error (faultAt left s!"parse error: {wording}")

/-! What the reader of a segment does at the front of a text. -/

inductive SegmentRead : List Char → Attempt Segment → Prop
  | nothing : SegmentRead [] (.soft [])
  | placeholder {rest behind : List Char} {segment : Segment}
      (found : atOpening? rest = some (segment, behind)) :
      SegmentRead (opening ++ rest) (.done segment behind)
  | malformed {rest : List Char} (begins : OpensNothing rest) :
      SegmentRead (opening ++ rest) (.hard rest)
  | run {text rest : List Char} (shown : text ≠ []) (plain : '\x7b' ∉ text) :
      SegmentRead (text ++ rest) (.done (literal (String.ofList text)) rest)
  | brace {rest : List Char} (alone : rest.head? ≠ some '\x7b') :
      SegmentRead ('\x7b' :: rest) (.done (literal "\x7b") rest)

open PartReader

theorem exactly_append (token behind : List Char) :
    exactly token (token ++ behind) = .done () behind := by
  simp [exactly]

theorem upToClosing_of_split {s inner behind : List Char}
    (found : splitAtClosing s = some (inner, behind)) (shown : inner ≠ []) :
    upToClosing s = .done inner (closing ++ behind) := by
  simp [upToClosing, found, shown]

theorem content_of_found {rest behind : List Char} {segment : Segment}
    (found : atOpening? rest = some (segment, behind)) : content rest = .done segment behind := by
  obtain ⟨inner, closed, named⟩ := (atOpening?_eq_some_iff _ _ _).mp found
  have split := (splitAtClosing_eq_some_iff _ _ _).mpr closed
  have taken := upToClosing_of_split split (inner_ne_nil_of_ofInner? named)
  simp [content, filterMap, terminated, taken, Attempt.andThen, Attempt.map, exactly_append, named]

/-- A content that names no placeholder fails where it begins. -/
theorem content_of_none {rest : List Char} (unread : atOpening? rest = none) :
    content rest = .soft rest := by
  cases split : splitAtClosing rest with
  | none => simp [content, filterMap, terminated, upToClosing, split, Attempt.andThen]
  | some parts =>
    obtain ⟨inner, behind⟩ := parts
    have nameless : ofInner? inner = none := by
      cases named : ofInner? inner with
      | none => rfl
      | some segment => simp [atOpening?, split, named] at unread
    by_cases empty : inner = []
    · simp [content, filterMap, terminated, upToClosing, split, empty, Attempt.andThen]
    · have taken := upToClosing_of_split split empty
      simp [content, filterMap, terminated, taken, Attempt.andThen, Attempt.map, exactly_append,
        nameless]

theorem placeholder_of_apart {s : List Char} (apart : ¬ opening <+: s) :
    PartReader.placeholder s = .soft s := by
  simp [PartReader.placeholder, preceded, exactly, apart, Attempt.andThen]

theorem placeholder_append (rest : List Char) :
    PartReader.placeholder (opening ++ rest) = (content rest).harden := by
  simp [PartReader.placeholder, preceded, exactly_append, Attempt.andThen]

/-- In front of a character that is no opening brace a run of text is read. -/
theorem literalRun_cons {c : Char} (plain : c ≠ '\x7b') (rest : List Char) :
    ∃ text left, text ++ left = c :: rest ∧ text ≠ [] ∧ '\x7b' ∉ text ∧
      literalRun (c :: rest) = .done (literal (String.ofList text)) left := by
  refine ⟨_, _, List.takeWhile_append_dropWhile (p := fun d => !decide (d = '\x7b')), ?_, ?_, ?_⟩
  · simp [plain]
  · intro inside
    simpa using List.mem_takeWhile_imp inside
  · simp [literalRun, upTo, plain, Attempt.map, Attempt.andThen]

/-- A content never fails softly once it has to be well formed. -/
theorem segment_append (rest : List Char) :
    segment (opening ++ rest) = (content rest).harden := by
  unfold PartReader.segment
  rw [firstOf, placeholder_append]
  cases content rest <;> rfl

theorem segment_of_apart {s : List Char} (apart : ¬ opening <+: s) :
    segment s = firstOf [literalRun, loneBrace] s := by
  unfold PartReader.segment
  rw [firstOf, placeholder_of_apart apart]

/-- The reader of a segment does one of five things. -/
theorem segmentRead (s : List Char) : SegmentRead s (segment s) := by
  by_cases opened : opening <+: s
  · obtain ⟨rest, rfl⟩ := opened
    rw [segment_append]
    cases found : atOpening? rest with
    | none =>
      rw [content_of_none found]
      exact .malformed ((atOpening?_eq_none_iff rest).mp found)
    | some parts =>
      rw [content_of_found found]
      exact .placeholder found
  · rw [segment_of_apart opened]
    cases s with
    | nil => exact .nothing
    | cons c rest =>
      by_cases brace : c = '\x7b'
      · subst brace
        have alone : rest.head? ≠ some '\x7b' := by
          intro next
          exact opened ((opening_prefix_cons_iff _ _).mpr ⟨rfl, next⟩)
        exact .brace alone
      · obtain ⟨text, left, whole, shown, plain, read⟩ := literalRun_cons brace rest
        rw [firstOf, read, ← whole]
        exact .run shown plain

/-! Repeating it is the strict reading. -/

theorem consLiteral_eq_inFront (c : Char) : consLiteral c = inFront (String.singleton c) := by
  funext segments
  match segments with
  | [] => rfl
  | literal _ :: _ => rfl
  | .placeholder _ _ :: _ => rfl

theorem inFront_inFront (text more : String) (segments : List Segment) :
    inFront text (inFront more segments) = inFront (text ++ more) segments := by
  match segments with
  | [] => rfl
  | literal _ :: _ => simp [inFront, String.append_assoc]
  | .placeholder _ _ :: _ => rfl

/-- The strict reading takes a run of text as one literal. -/
theorem strictSegments_run {text : List Char} (rest : List Char) (shown : text ≠ [])
    (plain : '\x7b' ∉ text) :
    strictSegments (text ++ rest) = (strictSegments rest).map (inFront (String.ofList text)) := by
  induction text with
  | nil => exact absurd rfl shown
  | cons c others ih =>
    have first : c ≠ '\x7b' := fun same => plain (by simp [same])
    have later : '\x7b' ∉ others := fun inside => plain (List.mem_cons_of_mem c inside)
    have apart : ¬ opening <+: c :: (others ++ rest) := by
      intro opened
      exact first ((opening_prefix_cons_iff _ _).mp opened).1
    rw [List.cons_append, strictSegments_character apart, consLiteral_eq_inFront]
    by_cases single : others = []
    · subst single
      rfl
    · have joins : String.singleton c ++ String.ofList others = String.ofList (c :: others) := by
        rw [← String.toList_inj]
        simp
      rw [ih single later]
      cases strictSegments rest with
      | error behind => rfl
      | ok segments => simp only [Except.map, inFront_inFront, joins]

/-- A strict reading as an attempt: it leaves nothing, or fails hard where it stood. -/
def attemptOf : Except (List Char) (List Segment) → Attempt (List Segment)
  | .ok segments => .done segments []
  | .error behind => .hard behind

theorem map_attemptOf (f : List Segment → List Segment)
    (read : Except (List Char) (List Segment)) :
    (attemptOf read).map f = attemptOf (read.map f) := by
  cases read <;> rfl

theorem joined_step {value : Segment} {f : List Segment → List Segment}
    (joins : ∀ parts, joined (value :: parts) = f (joined parts))
    (attempt : Attempt (List Segment)) :
    (attempt.map (value :: ·)).map joined = (attempt.map joined).map f := by
  cases attempt <;> simp [Attempt.map, Attempt.andThen, joins]

/-- One segment of a repeated reading: the rest is read, and the segment is put in front. -/
theorem joined_repeated_of_done {s left : List Char} {value : Segment}
    {f : List Segment → List Segment} (read : segment s = .done value left)
    (shorter : left.length < s.length)
    (joins : ∀ parts, joined (value :: parts) = f (joined parts))
    (ih : (repeated segment left).map joined = attemptOf (strictSegments left)) :
    (repeated segment s).map joined = attemptOf ((strictSegments left).map f) := by
  rw [repeated, read]
  simp only [if_pos shorter]
  rw [joined_step joins, ih, map_attemptOf]

/-- Reading by parts, with adjacent literals joined, is the strict reading. -/
theorem joined_repeated_segment (s : List Char) :
    (repeated segment s).map joined = attemptOf (strictSegments s) := by
  -- On the length: a placeholder and a run of text take more than one character at once.
  induction length : s.length using Nat.strong_induction_on generalizing s with
  | _ n ih =>
    subst length
    have each := segmentRead s
    generalize read : segment s = attempt at each
    cases each with
    | nothing =>
      rw [repeated, read, strictSegments]
      rfl
    | @placeholder rest behind value found =>
      have shorter : behind.length < (opening ++ rest).length := by
        have := atOpening?_length found
        simp [opening]
        omega
      obtain ⟨inner, -, named⟩ := (atOpening?_eq_some_iff _ _ _).mp found
      obtain ⟨-, rfl⟩ := (ofInner?_eq_some_iff _ _).mp named
      rw [strictSegments_placeholder found]
      exact joined_repeated_of_done read shorter (fun _ => rfl) (ih _ shorter _ rfl)
    | malformed begins =>
      rw [repeated, read, strictSegments_malformed begins]
      rfl
    | @run text rest shown plain =>
      have shorter : rest.length < (text ++ rest).length := by
        have := List.length_pos_of_ne_nil shown
        simp
        omega
      rw [strictSegments_run rest shown plain]
      exact joined_repeated_of_done read shorter (fun _ => rfl) (ih _ shorter _ rfl)
    | @brace rest alone =>
      have apart : ¬ opening <+: '\x7b' :: rest := by
        rw [opening_prefix_cons_iff]
        exact fun opened => alone opened.2
      have shorter : rest.length < ('\x7b' :: rest).length := by simp
      rw [strictSegments_character apart, consLiteral_eq_inFront]
      exact joined_repeated_of_done read shorter (fun _ => rfl) (ih _ shorter _ rfl)

/-- An attempt that comes to a strict reading leaves nothing or fails hard. -/
theorem done_or_hard_of_map {attempt : Attempt (List Segment)}
    {read : Except (List Char) (List Segment)} (same : attempt.map joined = attemptOf read) :
    (∃ parts, attempt = .done parts [] ∧ read = .ok (joined parts)) ∨
      ∃ left, attempt = .hard left ∧ read = .error left := by
  cases attempt with
  | done parts left =>
    cases read with
    | ok segments =>
      obtain ⟨rfl, rfl⟩ := Attempt.done.inj same
      exact .inl ⟨parts, rfl, rfl⟩
    | error behind => cases same
  | soft left => cases read <;> cases same
  | hard left =>
    cases read with
    | ok segments => cases same
    | error behind =>
      cases same
      exact .inr ⟨left, rfl, rfl⟩

/-- Reading by parts is the strict reading: it neither stops early nor fails softly, so each of
its faults is that of a malformed placeholder. -/
theorem readParts_eq (wording text : String) :
    readParts wording text =
      (parse text).mapError fun fault =>
        ⟨fault.place, "unterminated or malformed placeholder"⟩ := by
  unfold readParts parse
  rcases done_or_hard_of_map (joined_repeated_segment text.toList) with
    ⟨parts, attempt, strict⟩ | ⟨left, attempt, strict⟩
  · rw [attempt, strict]
    rfl
  · rw [attempt, strict]
    rfl

end Phrasebook.Template
