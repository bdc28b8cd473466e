import LiterateCalc.Proofs.Expression.Acceptance
import LiterateCalc.Proofs.Expression.Faults
import LiterateCalc.Proofs.Expression.Locality
import LiterateCalc.Proofs.Expression.Nodes
import LiterateCalc.Proofs.Expression.Parentheses

namespace LiterateCalc.Expression
open Text (Span byteLength)

/-- What the place of a call covers: the name, the parentheses of the call, and between them all places
in its arguments. -/
structure CallPlaced (text : List Char) (name : String) (trees : List Expression) (span : Span) : Prop where
  covers : ∃ gap inside, span.slice text = some (name.toList ++ (gap ++ '(' :: (inside ++ [')']))) ∧
    (∀ c ∈ gap, isSpace c = true) ∧ depthAfter 0 inside = some 0
  encloses : ∀ tree ∈ trees, ∀ node ∈ tree.nodes, ∀ inner, node.span? = some inner →
    span.start < inner.start ∧ inner.stop < span.stop

section
variable {text : List Char} {tokens : List Located} {tree : Expression}

theorem Laid.blank_of_nil (laid : Laid start text []) : ∀ c ∈ text, isSpace c = true := by
  intro c member
  obtain ⟨before, after, rfl⟩ := List.append_of_mem member
  rcases laid.blank with blank | ⟨_, none, _⟩
  · exact blank
  · cases none

/-- Before the first token there are only blanks. -/
theorem Laid.first (laid : Laid start text (⟨token, span⟩ :: tokens)) (symbol : symbolToken? c = some token) :
    ∃ gap after, text = gap ++ c :: after ∧ (∀ c ∈ gap, isSpace c = true) ∧
      span.stop = start + byteLength gap + 1 ∧ Laid span.stop after tokens := by
  have parted : Laid start text ([] ++ ⟨token, span⟩ :: tokens) := laid
  obtain ⟨gap, word, after, rfl, here, place, earlier, later⟩ := parted.split
  obtain rfl := here.eq_symbol symbol
  refine ⟨gap, after, rfl, earlier.blank_of_nil, ?_, later⟩
  rw [show span = _ from place, (symbolToken?_alone symbol []).2.2.2]

/-- The text of a call, cut at its name and at its two parentheses. -/
theorem Laid.call_split {name : String} {inside : List Located}
    (laid : Laid 0 text (front ++ ⟨.identifier name, start⟩ :: ⟨.leftParen, opening⟩ ::
      (inside ++ ⟨.rightParen, closing⟩ :: back))) :
    ∃ before gap inner after, text = before ++ (name.toList ++ (gap ++ '(' :: (inner ++ ')' :: after))) ∧
      (∀ c ∈ gap, isSpace c = true) ∧ start.start = byteLength before ∧
      opening.stop = byteLength before + byteLength name.toList + byteLength gap + 1 ∧
      closing.stop = opening.stop + byteLength inner + 1 ∧ Laid opening.stop inner inside := by
  obtain ⟨before, word, called, rfl, here, place, _, behind⟩ := laid.split
  obtain ⟨gap, opened, rfl, blank, opens, within⟩ := behind.first (c := '(') rfl
  obtain ⟨inner, close, after, rfl, last, ending, between, _⟩ := within.split
  obtain rfl := here.eq_name
  obtain rfl := last.eq_symbol (c := ')') rfl
  simp only [Nat.zero_add] at place
  refine ⟨before, gap, inner, after, rfl, blank, congrArg Span.start place, ?_, congrArg Span.stop ending, between⟩
  rw [opens, place]

theorem Laid.call_placed (laid : Laid 0 text tokens) (found : CallAt tokens (.call name trees span)) :
    CallPlaced text name trees span := by
  cases found with
  | @intro _ start opening closing inside front back parts each listed =>
    obtain ⟨before, gap, inner, after, rfl, blank, starts, opens, stops, between⟩ := laid.call_split
    refine ⟨⟨gap, inner, ?_, blank, ?_⟩, ?_⟩
    · have covered := Span.slice_append before (name.toList ++ (gap ++ '(' :: (inner ++ [')']))) after
      have size : closing.stop = byteLength before +
          byteLength (name.toList ++ (gap ++ '(' :: (inner ++ [')']))) := by
        simp only [Text.byteLength_append, Text.byteLength_cons, Text.byteLength_nil,
          show '('.utf8Size = 1 from rfl, show ')'.utf8Size = 1 from rfl]
        omega
      rw [← size, ← starts] at covered
      simpa using covered
    · have matched : Matched inside := listed.matched fun phrase member => by
        obtain ⟨part, present, rfl⟩ := List.mem_map.mp member
        exact (each part present).matched
      rw [between.depthAfter_eq]
      exact matched 0
    · intro tree member node below place found
      obtain ⟨part, present, rfl⟩ := List.mem_map.mp member
      obtain ⟨first, front, last, back, rfl⟩ := (each part present).placed below found
      have within : part.1 <:+: inside := listed.infix (List.mem_map.mpr ⟨part, present, rfl⟩)
      have lower := between.within (within.subset front)
      have upper := between.within (within.subset back)
      dsimp only
      omega

/-- A place between two characters of a text, or at one of its ends. -/
def Boundary (text : List Char) (place : Nat) : Prop :=
  ∃ front back, text = front ++ back ∧ byteLength front = place

/-- A span covers a part of a text, which may be empty. -/
structure Fits (text : List Char) (span : Span) : Prop where
  ordered : span.start ≤ span.stop
  bounded : span.stop ≤ byteLength text
  starts : Boundary text span.start
  stops : Boundary text span.stop

theorem Boundary.bounded (here : Boundary text place) : place ≤ byteLength text := by
  obtain ⟨front, back, rfl, rfl⟩ := here
  rw [Text.byteLength_append]
  exact Nat.le_add_right _ _

theorem Fits.of_boundaries (ordered : span.start ≤ span.stop) (starts : Boundary text span.start)
    (stops : Boundary text span.stop) : Fits text span :=
  ⟨ordered, stops.bounded, starts, stops⟩

theorem Fits.of_split (before word after : List Char) :
    Fits (before ++ (word ++ after)) ⟨byteLength before, byteLength before + byteLength word⟩ :=
  .of_boundaries (Nat.le_add_right _ _) ⟨before, word ++ after, rfl, rfl⟩
    ⟨before ++ word, after, (List.append_assoc ..).symm, Text.byteLength_append before word⟩

theorem Boundary.ending (text : List Char) : Boundary text (byteLength text) :=
  ⟨text, [], (List.append_nil text).symm, rfl⟩

theorem Laid.fits (laid : Laid 0 text tokens) (member : next ∈ tokens) : Fits text next.span := by
  obtain ⟨front, back, rfl⟩ := List.append_of_mem member
  obtain ⟨before, word, after, rfl, _, place, _, _⟩ := laid.split
  rw [place, Nat.zero_add]
  exact .of_split before word after

theorem Shown.fits (shown : Shown (byteLength text) tokens span) (laid : Laid 0 text tokens) : Fits text span := by
  cases shown with
  | token member => exact laid.fits member
  | ending => exact .of_boundaries (Nat.le_refl _) (.ending text) (.ending text)
  | opened member =>
    have here := laid.fits member
    exact .of_boundaries (Nat.le_trans here.ordered here.bounded) here.starts (.ending text)

/-- A word that is no token is a part of the text. -/
theorem tokenizeFrom_fits (before : List Char) (failed : tokenizeFrom (byteLength before) text = .error error) :
    Fits (before ++ text) error.span := by
  induction text using words_induction generalizing before with
  | nil =>
    rw [tokenizeFrom_nil] at failed
    cases failed
  | space first rest blank ih =>
    have moved : byteLength before + 1 = byteLength (before ++ [first]) := by
      rw [Text.byteLength_append, Text.byteLength_cons, utf8Size_of_isSpace blank, Text.byteLength_nil]
    rw [tokenizeFrom_space blank, moved] at failed
    simpa using ih _ failed
  | word first tail rest solid whole ih =>
    cases read : readWord first tail with
    | error fault =>
      rw [tokenizeFrom_whole_error solid whole read] at failed
      obtain rfl := Except.error.inj failed
      exact .of_split before (first :: tail) rest
    | ok token =>
      rw [tokenizeFrom_whole solid whole read, map_eq_error, ← Text.byteLength_append] at failed
      simpa using ih _ failed

theorem parse_fits (failed : parse source = .error error) : Fits source.toList error.span := by
  unfold parse parseText at failed
  cases words : tokenize source.toList with
  | error fault =>
    rw [words] at failed
    obtain rfl := Except.error.inj failed
    exact tokenizeFrom_fits [] words
  | ok tokens =>
    rw [words] at failed
    exact (ofTokens_shown failed).fits (laid_of_tokenizeFrom words)

theorem parse_front (failed : parse source = .error error) (trailing : error.fault = .trailingInput token) :
    ∃ front back tree, source = front ++ back ∧ byteLength front.toList = error.span.start ∧
      parse front = .ok tree := by
  obtain ⟨tokens, words, unread⟩ := parse_eq_error failed (by rw [trailing]; rfl)
  rcases ofTokens_blames unread with blames | ⟨tree, next, rest, _, rfl, read⟩
  · exact absurd trailing (blames.reading token)
  · obtain ⟨used, rfl, alone⟩ := ofTokens_alone read
    obtain ⟨before, word, after, parted, _, place, earlier, _⟩ := (laid_of_tokenizeFrom words).split
    refine ⟨String.ofList before, String.ofList (word ++ after), tree, ?_, ?_, ?_⟩
    · rw [← String.ofList_append, ← parted, String.ofList_toList]
    · rw [String.toList_ofList, place, Nat.zero_add]
    · unfold parse parseText tokenize
      rw [String.toList_ofList, earlier.tokenizeFrom_eq]
      exact alone _

/-- The place of every reference in a tree is that of its name, and the places follow one another; the
place of every call is that of the call with its arguments. The place of a fault is a part of the text, and
all before a token that follows an expression is an expression. -/
theorem parse_spans (source : String) :
    (∀ tree, parse source = .ok tree →
      (∀ name span, .reference name span ∈ tree.nodes → span.slice source.toList = some name.toList) ∧
      (∀ name trees span, .call name trees span ∈ tree.nodes → CallPlaced source.toList name trees span) ∧
      (∀ name ∈ tree.named, name.span.start < name.span.stop) ∧
      tree.named.Pairwise fun first second => first.span.stop ≤ second.span.start) ∧
    ∀ error, parse source = .error error →
      Fits source.toList error.span ∧
      ∀ token, error.fault = .trailingInput token →
        ∃ front back tree, source = front ++ back ∧ byteLength front.toList = error.span.start ∧
          parse front = .ok tree := by
  refine ⟨?_, fun error failed => ⟨parse_fits failed, fun token => parse_front failed⟩⟩
  intro tree found
  obtain ⟨tokens, words, read⟩ := parse_eq_ok found
  have laid : Laid 0 source.toList tokens := laid_of_tokenizeFrom words
  have phrase := ofTokens_sound read
  refine ⟨?_, ?_, ?_, ?_⟩
  · intro name span member
    obtain ⟨word, covered, here⟩ := laid.slice (phrase.reference_at member)
    rw [covered, here.eq_name]
  · intro name trees span member
    exact laid.call_placed (phrase.call_at member)
  · intro name member
    exact (laid.within (phrase.references.subset member)).2.1
  · exact laid.ordered.sublist phrase.references

/-- Of a call within a call behind another name, and of a name behind a name. -/
theorem parse_spans_calls :
    (∃ tree, parse "a*abs( -sqrt (b))" = .ok tree ∧
      tree.named = [⟨.identifier "a", ⟨0, 1⟩⟩, ⟨.identifier "b", ⟨14, 15⟩⟩] ∧
      CallPlaced "a*abs( -sqrt (b))".toList "sqrt" [.reference "b" ⟨14, 15⟩] ⟨8, 16⟩) ∧
    ∃ front back tree, "a  b" = front ++ back ∧ byteLength front.toList = 3 ∧ parse front = .ok tree := by
  constructor
  · have words : tokenize "a*abs( -sqrt (b))".toList =
        .ok [⟨.identifier "a", ⟨0, 1⟩⟩, ⟨.star, ⟨1, 2⟩⟩, ⟨.identifier "abs", ⟨2, 5⟩⟩, ⟨.leftParen, ⟨5, 6⟩⟩,
          ⟨.minus, ⟨7, 8⟩⟩, ⟨.identifier "sqrt", ⟨8, 12⟩⟩, ⟨.leftParen, ⟨13, 14⟩⟩, ⟨.identifier "b", ⟨14, 15⟩⟩,
          ⟨.rightParen, ⟨15, 16⟩⟩, ⟨.rightParen, ⟨16, 17⟩⟩] := by
      simp [tokenize, tokenizeFrom, isSpace, wordTail, readWord, isNumberCharacter, isLetter,
        isNameCharacter, isForeign, Decimal.isDigit, symbolToken?, byteLength, Char.utf8Size, Except.map]
    have inner : Derives .atom [⟨.identifier "sqrt", ⟨8, 12⟩⟩, ⟨.leftParen, ⟨13, 14⟩⟩, ⟨.identifier "b", ⟨14, 15⟩⟩,
        ⟨.rightParen, ⟨15, 16⟩⟩] (.call "sqrt" [.reference "b" ⟨14, 15⟩] ⟨8, 16⟩) :=
      .call [(_, _)] (List.forall_mem_singleton.mpr (.toSum .reference)) .one
    have outer : Derives .atom (⟨.identifier "abs", ⟨2, 5⟩⟩ :: ⟨.leftParen, ⟨5, 6⟩⟩ :: (⟨.minus, ⟨7, 8⟩⟩ :: _) ++
        [⟨.rightParen, ⟨16, 17⟩⟩])
        (.call "abs" [.unary .minus (.call "sqrt" [.reference "b" ⟨14, 15⟩] ⟨8, 16⟩)] ⟨2, 17⟩) :=
      .call [(_, _)] (List.forall_mem_singleton.mpr (.toSum (.signed rfl (.ofAtom inner)))) .one
    have name : Derives .term [⟨.identifier "a", ⟨0, 1⟩⟩] (.reference "a" ⟨0, 1⟩) := .ofFactor (.ofAtom .reference)
    have phrase : Derives .sum (_ ++ ⟨.star, ⟨1, 2⟩⟩ :: _) _ := .ofTerm (.multiplication rfl name (.ofAtom outer))
    have found : parse "a*abs( -sqrt (b))" = .ok (.binary .multiply (.reference "a" ⟨0, 1⟩)
        (.call "abs" [.unary .minus (.call "sqrt" [.reference "b" ⟨14, 15⟩] ⟨8, 16⟩)] ⟨2, 17⟩)) := by
      unfold parse parseText
      rw [words]
      rcases phrase.ofTokens (byteLength "a*abs( -sqrt (b))".toList) with done | ⟨span, deep⟩
      · exact done
      · exact absurd (ofTokens_tooDeep deep rfl) (by decide)
    refine ⟨_, found, ?_, ((parse_spans _).1 _ found).2.1 _ _ _ ?_⟩
    · simp [named_eq, parts, located?]
    · simp [nodes_eq, parts]
  · have words : tokenize "a  b".toList = .ok [⟨.identifier "a", ⟨0, 1⟩⟩, ⟨.identifier "b", ⟨3, 4⟩⟩] := by
      simp [tokenize, tokenizeFrom, isSpace, wordTail, readWord, isNumberCharacter, isLetter, isNameCharacter,
        Decimal.isDigit, byteLength, Char.utf8Size, Except.map]
    have failed : parse "a  b" = .error ⟨.trailingInput (.identifier "b"), ⟨3, 4⟩⟩ := by
      unfold parse parseText
      rw [words]
      rfl
    exact ((parse_spans _).2 _ failed).2 _ rfl

end
end LiterateCalc.Expression
