import HttpAuth.Proofs.Changes
import HttpAuth.Proofs.RoundTrip

namespace HttpAuth

open Scanner (equals quote)

namespace Scanner

/-- Not empty, and made of ASCII letters and digits. -/
def IsWord (bytes : List UInt8) : Prop := bytes ≠ [] ∧ ∀ b ∈ bytes, Ascii.isAlphanum b = true

/-- A key is held only while a challenge is open to take its parameter, and a value only since the equals sign
behind that key. -/
structure Tidy (s : Scanner) : Prop where
  inParameter : s.phase = .value ∨ s.phase = .quoted ∨ s.phase = .escaped →
    s.opened ≠ [] ∧ IsWord s.key.toList ∧ s.word = #[]
  betweenParameters : s.phase = .word ∨ s.phase = .settled → s.key = #[] ∧ s.value = #[]
  settled : s.phase = .settled → s.word = #[] ∧ s.opened ≠ []
  word : s.phase = .word → ∀ b ∈ s.word.toList, Ascii.isAlphanum b = true
  unquoted : s.phase = .value → ∀ b ∈ s.value.toList, Ascii.isAlphanum b = true
  afterComma : s.afterComma = true → s.phase = .word ∧ s.opened ≠ []
  names : ∀ c ∈ s.opened, ∀ n ∈ c.names, n.IsWord ∧ n.IsLower

/-- The bytes behind an equals sign, and the value that they say. A quoted value is not closed yet. -/
inductive Reads : List UInt8 → List UInt8 → Prop where
  | bare {letters : List UInt8} (h : ∀ b ∈ letters, Ascii.isAlphanum b = true) : Reads letters letters
  | quoted (pieces : List Grammar.Piece) :
      Reads (quote :: pieces.flatMap Grammar.Piece.bytes) (pieces.map Grammar.Piece.content)

/-- A parameter that is given away after these bytes goes to a challenge, under a key that is a word. Its value is
what is written since the equals sign, where the buffer was empty. -/
structure Kept (bytes : List UInt8) (opened : List Challenge) (key value : List UInt8) : Prop where
  isWord : IsWord key
  received : ∃ c older, opened = c :: older ∧ (Change.assigns key value).apply opened =
    c.set (Utf8.decodeLossy key) (Utf8.decodeLossy value) :: older
  written : ∃ before written r, bytes = before ++ key ++ equals :: written ∧
    Scanner.feed {} (before ++ key ++ [equals]) = .ok r ∧ r.phase = .value ∧ r.key.toList = key ∧
    r.value = #[] ∧ Reads written value

theorem feed_eq_ok {bytes : List UInt8} {s : Scanner} :
    Scanner.feed {} bytes = .ok s ↔ ∃ p, Place.start.feed bytes = .ok p ∧ p.scanner = s := by
  have hf : Scanner.feed {} bytes = (Place.start.feed bytes).map Place.scanner :=
    Place.feed_scanner Place.start bytes
  rw [hf]
  cases Place.start.feed bytes with
  | error e => simp [Except.map]
  | ok p => simp [Except.map]

end Scanner

namespace Grammar

open Scanner (Tidy Kept Reads IsWord)

variable {bytes key value : List UInt8} {p : Place} {o : Opening} {b : UInt8}

theorem Word.isWord (w : Word) : IsWord w.bytes := ⟨w.ne_nil, w.alphanum⟩

theorem Opening.opened_ne_nil (h : o.Ready) : o.opened ≠ [] := by
  apply Front.opened_ne_nil
  by_cases hn : o.elements = []
  · exact .inl (h hn)
  · exact .inr (allOpened_ne_nil o.opens hn)

theorem names_of_wordsOnly {opened : List Challenge} (h : Challenge.WordsOnly opened) :
    ∀ c ∈ opened, ∀ n ∈ c.names, n.IsWord ∧ n.IsLower :=
  fun c hc n hn => ⟨h c hc n hn, n.isLower⟩

theorem wordsOnly_allOpened (es : List Element) : Challenge.WordsOnly (allOpened es) :=
  Challenge.WordsOnly.elements (fun _ hc => absurd hc List.not_mem_nil) es

theorem Opening.wordsOnly (o : Opening) : Challenge.WordsOnly o.opened :=
  (wordsOnly_allOpened o.elements).front o.front

/-- The scanner right behind the equals sign of a parameter. -/
theorem Opening.feed_key (h : o.Ready) (k : Word) :
    Place.start.feed (o.bytes ++ k.bytes ++ [equals]) = .ok (.value k.bytes [] o.opened) := by
  have hfront : Place.start.feed o.bytes = .ok (.word [] o.afterComma o.opened) := by
    rw [Opening.bytes, Place.start, Place.feed_append (feed_elements (.inl o.opens))]
    exact feed_front o.front _ _
  have hs : (Place.word k.bytes o.afterComma o.opened).step equals =
      some (.value k.bytes [] o.opened) := by
    simp [Place.step, equals_class, k.ne_nil, Opening.opened_ne_nil h]
  rw [List.append_assoc, Place.feed_append hfront, Place.feed_append (feed_letters k.alphanum [] _ _),
    List.nil_append, Place.feed_cons hs]
  rfl

theorem Opening.kept (h : o.Ready) (k : Word) {written : List UInt8} (hr : Reads written value) :
    Kept (o.bytes ++ k.bytes ++ equals :: written) o.opened k.bytes value := by
  obtain ⟨c, older, ho⟩ := List.exists_cons_of_ne_nil (Opening.opened_ne_nil h)
  exact ⟨k.isWord, ⟨c, older, ho, by rw [ho]; rfl⟩, o.bytes, written, _, rfl,
    Scanner.feed_eq_ok.mpr ⟨_, o.feed_key h k, rfl⟩, rfl, rfl, rfl, hr⟩

theorem Opening.tidy (h : o.Ready) (k : Word) {s : Scanner}
    (hp : s.phase = .value ∨ s.phase = .quoted ∨ s.phase = .escaped) (ho : s.opened = o.opened)
    (hk : s.key = k.bytes.toArray) (hw : s.word = #[]) (ha : s.afterComma = false)
    (hv : s.phase = .value → ∀ b ∈ s.value.toList, Ascii.isAlphanum b = true) : Tidy s := by
  have hout : s.phase ≠ .word ∧ s.phase ≠ .settled := by
    rcases hp with hp | hp | hp <;> simp [hp]
  exact
    { inParameter := fun _ => ⟨ho ▸ Opening.opened_ne_nil h, hk ▸ k.isWord, hw⟩
      betweenParameters := fun hb => hb.elim (absurd · hout.1) (absurd · hout.2)
      settled := fun hs => absurd hs hout.2
      word := fun hs => absurd hs hout.1
      unquoted := hv
      afterComma := fun hc => by simp [ha] at hc
      names := ho ▸ names_of_wordsOnly o.wordsOnly }

/-- Whatever tree the bytes begin, the buffers are as they should be. -/
theorem Fits.tidy (h : Fits bytes p) : Tidy p.scanner := by
  cases h with
  | word o hl =>
    constructor
    case inParameter | settled | unquoted => simp [Place.scanner]
    case betweenParameters => exact fun _ => ⟨rfl, rfl⟩
    case word => exact fun _ => hl
    case afterComma =>
      intro ha
      refine ⟨rfl, Opening.opened_ne_nil fun hn => ?_⟩
      simp [Place.scanner, Opening.afterComma, hn] at ha
    case names => exact names_of_wordsOnly o.wordsOnly
  | value o ho key hl => exact Opening.tidy ho key (.inl rfl) rfl rfl rfl rfl fun _ => hl
  | quoted o ho key ps =>
    refine Opening.tidy ho key (.inr (.inl rfl)) rfl rfl rfl rfl ?_
    simp [Place.scanner]
  | escaped o ho key ps =>
    refine Opening.tidy ho key (.inr (.inr rfl)) rfl rfl rfl rfl ?_
    simp [Place.scanner]
  | @settled es e ho hd =>
    constructor
    case inParameter | word | unquoted | afterComma => simp [Place.scanner]
    case betweenParameters => exact fun _ => ⟨rfl, rfl⟩
    case settled =>
      have hopen : allOpened (es ++ [e]) ≠ [] := allOpened_ne_nil ho (by simp)
      exact fun _ => ⟨rfl, by simpa [allOpened, Place.scanner] using hopen⟩
    case names => exact names_of_wordsOnly ((wordsOnly_allOpened es).element e)

/-- A parameter is given away by a comma, a blank or a quote behind its value. -/
theorem Fits.kept (h : Fits bytes p) (hc : p.scanner.change b = .assigns key value) :
    Kept bytes p.scanner.opened key value ∧ b.toNat < 0x80 := by
  obtain ⟨hp, rfl, rfl⟩ := Scanner.change_eq_assigns hc
  cases h with
  | word | escaped | settled => simp [Place.scanner] at hp
  | value o ho k hl =>
    refine ⟨Opening.kept ho k (.bare hl), ?_⟩
    rcases hp with ⟨-, rfl | hb⟩ | ⟨hq, -⟩
    · decide
    · exact ascii_of_isSpace hb
    · cases hq
  | quoted o ho k ps =>
    refine ⟨Opening.kept ho k (.quoted ps), ?_⟩
    rcases hp with ⟨hv, -⟩ | ⟨-, rfl⟩
    · cases hv
    · decide

/-- Or by the end of the header value, which only an unquoted value can come to. -/
theorem Fits.kept_last (h : Fits bytes p) (hc : p.scanner.lastChange = .assigns key value) :
    Kept bytes p.scanner.opened key value := by
  obtain ⟨hp, rfl, rfl⟩ := Scanner.lastChange_eq_assigns hc
  cases h with
  | word | quoted | escaped | settled => cases hp
  | value o ho k hl => exact Opening.kept ho k (.bare hl)

end Grammar

namespace Scanner

/-- Behind all bytes that a scanner takes its buffers are in order. What the next byte, or the end, does to the
challenges is the change it makes, and no change gives a parameter away that would be lost, or one with bytes from
before its equals sign. -/
theorem buffers_tidy {bytes : List UInt8} {s : Scanner} (h : Scanner.feed {} bytes = .ok s) :
    s.Tidy ∧ (∀ b t, s.step b = some t → t.opened = (s.change b).apply s.opened) ∧
      (∀ cs, s.finish = some cs → cs = (s.lastChange.apply s.opened).reverse) ∧
      ∀ key value, (s.lastChange = .assigns key value ∨ ∃ b, s.change b = .assigns key value) →
        Kept bytes s.opened key value := by
  obtain ⟨p, hp, rfl⟩ := feed_eq_ok.mp h
  have hfits : Grammar.Fits bytes p := Grammar.fits_feed Grammar.fits_start hp
  refine ⟨hfits.tidy, fun b t => step_opened, fun cs => finish_eq, ?_⟩
  rintro key value (hlast | ⟨b, hb⟩)
  · exact hfits.kept_last hlast
  · exact (hfits.kept hb).1

/-- A value that the end of the text ends, behind a quoted one with escapes. -/
theorem buffers_tidy_nonce :
    let bytes := Utf8.encode "Digest realm=\"a \\\"b\\\"\", Nonce=7f"
    let s : Scanner :=
      { phase := .value
        key := (Utf8.encode "Nonce").toArray
        value := (Utf8.encode "7f").toArray
        opened := [(Challenge.ofScheme "digest").set "realm" "a \"b\""] }
    Scanner.feed {} bytes = .ok s ∧ s.Tidy ∧
      Kept bytes s.opened (Utf8.encode "Nonce") (Utf8.encode "7f") := by
  intro bytes s
  have h : Scanner.feed {} bytes = .ok s := by decide +kernel
  have hlast : s.lastChange = .assigns (Utf8.encode "Nonce") (Utf8.encode "7f") := by decide +kernel
  exact ⟨h, (buffers_tidy h).1, (buffers_tidy h).2.2.2 _ _ (.inl hlast)⟩

end Scanner

end HttpAuth
