import HttpAuth.Http.Uri
import HttpAuth.Name
import HttpAuth.Proofs.FormDecoding
import HttpAuth.Url.Parser
import Mathlib.Data.List.TakeWhile

namespace HttpAuth

/-- Holds no mark that ends an authority. -/
def Unmarked (cs : List Char) : Prop := ∀ c ∈ cs, Uri.endsAuthority c = false

@[simp] theorem unmarked_nil : Unmarked [] := by simp [Unmarked]

@[simp] theorem unmarked_cons {c : Char} {cs : List Char} :
    Unmarked (c :: cs) ↔ Uri.endsAuthority c = false ∧ Unmarked cs := by
  simp [Unmarked]

@[simp] theorem unmarked_append {cs ds : List Char} :
    Unmarked (cs ++ ds) ↔ Unmarked cs ∧ Unmarked ds := by
  simp [Unmarked, or_imp, forall_and]

/-- A class of characters that has all three marks has what is no mark outside. -/
theorem not_endsAuthority {p : Char → Bool} (hp : p '/' = true ∧ p '?' = true ∧ p '#' = true) {c : Char}
    (hc : p c = false) : Uri.endsAuthority c = false := by
  obtain ⟨hslash, hquestion, hhash⟩ := hp
  rw [Bool.eq_false_iff]
  intro he
  simp only [Uri.endsAuthority, Bool.or_eq_true, decide_eq_true_eq] at he
  rcases he with (rfl | rfl) | rfl
  · simp [hc] at hslash
  · simp [hc] at hquestion
  · simp [hc] at hhash

theorem endsAuthority_of_isAlphanum {c : Char} (h : c.isAlphanum = true) :
    Uri.endsAuthority c = false :=
  not_endsAuthority (p := (!·.isAlphanum)) ⟨rfl, rfl, rfl⟩ (by simp [h])

theorem unmarked_of_any {p : Char → Bool} (hp : p '/' = true ∧ p '?' = true ∧ p '#' = true)
    {cs : List Char} (h : ¬ cs.any p = true) : Unmarked cs := by
  intro c hc
  simp only [List.any_eq_true, not_exists, not_and, Bool.not_eq_true] at h
  exact not_endsAuthority hp (h c hc)

theorem unmarked_of_isAlphanum {cs : List Char} (h : ∀ c ∈ cs, c.isAlphanum = true) : Unmarked cs :=
  fun c hc => endsAuthority_of_isAlphanum (h c hc)

namespace Percent

theorem mem_encodeChar {escaped : Char → Bool} {c d : Char} (h : d ∈ encodeChar escaped c) :
    d = '%' ∨ d.isAlphanum = true ∨ d = c ∧ escaped d = false := by
  unfold encodeChar at h
  split at h
  · next hc =>
    obtain rfl := List.mem_singleton.mp h
    rw [Bool.and_eq_true, Bool.not_eq_true'] at hc
    exact .inr (.inr ⟨rfl, hc.2⟩)
  · obtain ⟨b, -, hb⟩ := List.mem_flatMap.mp h
    rcases mem_encodeByte hb with hd | hd
    · exact .inl hd
    · exact .inr (.inl hd)

/-- A mark is in an encoded text only if it is in the text and is not escaped. -/
theorem mem_flatMap_encodeChar {escaped : Char → Bool} {cs : List Char} {c : Char}
    (h : c ∈ cs.flatMap (encodeChar escaped)) :
    c = '%' ∨ c.isAlphanum = true ∨ c ∈ cs ∧ escaped c = false := by
  obtain ⟨d, hd, hc⟩ := List.mem_flatMap.mp h
  rcases mem_encodeChar hc with hc | hc | ⟨rfl, he⟩
  · exact .inl hc
  · exact .inr (.inl hc)
  · exact .inr (.inr ⟨hd, he⟩)

theorem mem_encode {escaped : Char → Bool} {cs : List Char} {c : Char}
    (h : c ∈ (encode escaped cs).toList) :
    c = '%' ∨ c.isAlphanum = true ∨ c ∈ cs ∧ escaped c = false := by
  rw [encode, String.toList_ofList] at h
  exact mem_flatMap_encodeChar h

theorem not_mem_encode {escaped : Char → Bool} {c : Char} (hp : c ≠ '%') (ha : c.isAlphanum = false)
    (he : escaped c = true) (cs : List Char) : c ∉ (encode escaped cs).toList := by
  intro h
  rcases mem_encode h with h | h | ⟨-, h⟩
  · exact hp h
  · simp [ha] at h
  · simp [he] at h

theorem unmarked_encode {escaped : Char → Bool} {cs : List Char}
    (h : ∀ c ∈ cs, escaped c = false → Uri.endsAuthority c = false) :
    Unmarked (encode escaped cs).toList := by
  intro c hc
  rcases mem_encode hc with rfl | hc | ⟨hc, he⟩
  · rfl
  · exact endsAuthority_of_isAlphanum hc
  · exact h c hc he

end Percent

theorem isAlphanum_digitChar : ∀ n < 16, n.digitChar.isAlphanum = true := by decide

theorem isAlphanum_toDigits (n : Nat) : ∀ c ∈ Nat.toDigits 16 n, c.isAlphanum = true := by
  induction n using Nat.strongRecOn with
  | ind n ih =>
    rw [Nat.toDigits_eq_if (by decide)]
    split
    · next hlt =>
      intro c hc
      rw [List.mem_singleton.mp hc]
      exact isAlphanum_digitChar n hlt
    · intro c hc
      rcases List.mem_append.mp hc with hc | hc
      · exact ih (n / 16) (by omega) c hc
      · rw [List.mem_singleton.mp hc]
        exact isAlphanum_digitChar _ (Nat.mod_lt n (by decide))

theorem unmarked_decimal (n : Nat) : Unmarked (Nat.toDigits 10 n) := by
  apply unmarked_of_isAlphanum
  intro c hc
  have hdigit := Nat.isDigit_of_mem_toDigits (by decide) (by decide) hc
  simp [Char.isAlphanum, hdigit]

theorem unmarked_hex (n : Nat) : Unmarked (Ascii.hex n).toList := by
  rw [Ascii.hex, String.toList_ofList]
  exact unmarked_of_isAlphanum (isAlphanum_toDigits n)

theorem unmarked_intercalate {separator : String} {parts : List String}
    (hs : Unmarked separator.toList) (h : ∀ s ∈ parts, Unmarked s.toList) :
    Unmarked (separator.intercalate parts).toList := by
  rw [String.toList_intercalate]
  induction parts with
  | nil => exact unmarked_nil
  | cons first rest ih =>
    have hrest := ih fun s hm => h s (List.mem_cons_of_mem _ hm)
    cases rest with
    | nil =>
      rw [List.map_singleton, List.intercalate_singleton]
      exact h first List.mem_cons_self
    | cons second rest =>
      simp only [List.map_cons, List.intercalate_cons_cons] at hrest ⊢
      simp [h first List.mem_cons_self, hs, hrest]

namespace Host

theorem unmarked_ipv4 (bytes : List Nat) : Unmarked (Ipv4.text bytes).toList := by
  apply unmarked_intercalate
  · simp [Uri.endsAuthority]
  · intro s hs
    obtain ⟨n, -, rfl⟩ := List.mem_map.mp hs
    simp [unmarked_decimal]

theorem unmarked_joined (groups : List Nat) : Unmarked (Ipv6.joined groups).toList := by
  apply unmarked_intercalate
  · simp [Uri.endsAuthority]
  · intro s hs
    obtain ⟨n, -, rfl⟩ := List.mem_map.mp hs
    exact unmarked_hex n

theorem unmarked_ipv6 (groups : List Nat) : Unmarked (Ipv6.text groups).toList := by
  unfold Ipv6.text
  dsimp only
  split
  · exact unmarked_joined groups
  · simp [unmarked_joined, Uri.endsAuthority]

theorem unmarked_bracketed? {cs : List Char} {host : String} (h : bracketed? cs = some host) :
    Unmarked host.toList := by
  unfold bracketed? at h
  split at h
  · obtain ⟨groups, -, rfl⟩ := Option.map_eq_some_iff.mp h
    simp [unmarked_ipv6, Uri.endsAuthority]
  · cases h

theorem unmarked_toAscii? {name ascii : List Char} (h : DomainName.toAscii? name = some ascii) :
    Unmarked ascii := by
  simp only [DomainName.toAscii?, Option.bind_eq_bind, Option.bind_eq_some_iff] at h
  obtain ⟨folded, -, labels, -, parts, -, h⟩ := h
  split at h
  · cases h
  · next hfits =>
    obtain rfl := Option.some.inj h
    exact unmarked_of_any ⟨rfl, rfl, rfl⟩ fun ha => hfits (Bool.or_eq_true_iff.mpr (.inl ha))

theorem unmarked_parse? {cs : List Char} {host : String} (h : parse? cs = some host) :
    Unmarked host.toList := by
  unfold parse? at h
  split at h
  · exact unmarked_bracketed? h
  · simp only [Option.bind_eq_bind, Option.bind_eq_some_iff] at h
    obtain ⟨decoded, -, name, hname, h⟩ := h
    split at h
    · cases h
    · split at h
      · obtain ⟨bytes, -, rfl⟩ := Option.map_eq_some_iff.mp h
        exact unmarked_ipv4 bytes
      · obtain rfl := Option.some.inj h
        rw [String.toList_ofList]
        exact unmarked_toAscii? hname

theorem unmarked_parseOpaque? {cs : List Char} {host : String} (h : parseOpaque? cs = some host) :
    Unmarked host.toList := by
  unfold parseOpaque? at h
  split at h
  · exact unmarked_bracketed? h
  · split at h
    · cases h
    · next hfits =>
      obtain rfl := Option.some.inj h
      exact Percent.unmarked_encode fun c hc _ => unmarked_of_any ⟨rfl, rfl, rfl⟩ hfits c hc

end Host

namespace Url

/-- Holds no mark that ends a path. -/
def NoQuery (cs : List Char) : Prop := '?' ∉ cs ∧ '#' ∉ cs

/-- A path as it stands behind an authority. -/
structure IsPath (path : String) : Prop where
  front : path = "" ∨ ∃ rest, path.toList = '/' :: rest
  noQuery : NoQuery path.toList

theorem noQuery_encodePath (cs : List Char) : NoQuery (encodePath cs) := by
  have hnone : ∀ c, c ≠ '%' → c.isAlphanum = false → Percent.inPath c = true → c ∉ encodePath cs := by
    intro c hp ha he
    simpa only [encodePath, Percent.encode, String.toList_ofList] using
      Percent.not_mem_encode hp ha he cs
  exact ⟨hnone '?' (by simp) rfl rfl, hnone '#' (by simp) rfl rfl⟩

theorem goUp_subset (directories : List (List Char)) : goUp directories ⊆ directories := by
  cases directories with
  | nil => exact List.Subset.refl _
  | cons last rest =>
    simp only [goUp]
    split
    · exact List.Subset.refl _
    · exact List.subset_cons_self last rest

/-- Dots are resolved by leaving segments out. -/
theorem forall_mem_resolve {P : List Char → Prop} (hnil : P []) {directories segments : List (List Char)}
    (hd : ∀ s ∈ directories, P s) (hs : ∀ s ∈ segments, P s) :
    ∀ s ∈ resolve directories segments, P s := by
  induction directories, segments using resolve.induct with
  | case1 directories => simpa [resolve] using hd
  | case2 directories last hdouble =>
    have hup : ∀ s ∈ goUp directories, P s := fun s hm => hd s (goUp_subset directories hm)
    simpa [resolve, hdouble, or_imp, forall_and, hnil] using hup
  | case3 directories last hdouble hsingle =>
    simpa [resolve, hdouble, hsingle, or_imp, forall_and, hnil] using hd
  | case4 directories last hdouble hsingle =>
    simpa [resolve, hdouble, hsingle, or_imp, forall_and] using ⟨hd, hs last List.mem_cons_self⟩
  | case5 directories first rest hne hdouble ih =>
    obtain ⟨-, hrest⟩ := List.forall_mem_cons.mp hs
    rw [resolve, if_pos hdouble]
    · exact ih (fun s hm => hd s (goUp_subset directories hm)) hrest
    · exact hne
  | case6 directories first rest hne hdouble hsingle ih =>
    obtain ⟨-, hrest⟩ := List.forall_mem_cons.mp hs
    rw [resolve, if_neg hdouble, if_pos hsingle]
    · exact ih hd hrest
    · exact hne
  | case7 directories first rest hne hdouble hsingle ih =>
    obtain ⟨hfirst, hrest⟩ := List.forall_mem_cons.mp hs
    rw [resolve, if_neg hdouble, if_neg hsingle]
    · exact ih (List.forall_mem_cons.mpr ⟨hfirst, hd⟩) hrest
    · exact hne

theorem isPath_resolve {segments : List (List Char)} (h : ∀ s ∈ segments, NoQuery s) :
    IsPath (pathOfSegments (resolve [] segments)) := by
  have hall : ∀ s ∈ resolve [] segments, NoQuery s :=
    forall_mem_resolve (by simp [NoQuery]) (by simp) h
  generalize resolve [] segments = resolved at hall
  constructor
  · cases resolved with
    | nil => exact .inl rfl
    | cons first rest => exact .inr ⟨_, String.toList_ofList⟩
  · simp only [NoQuery, pathOfSegments, String.toList_ofList, List.mem_flatMap, List.mem_cons,
      not_exists, not_and, not_or]
    exact ⟨fun s hs => ⟨by simp, (hall s hs).1⟩, fun s hs => ⟨by simp, (hall s hs).2⟩⟩

theorem isPath_parsePath (k : SchemeKind) (cs : List Char) : IsPath (parsePath k cs) := by
  apply isPath_resolve
  intro s hs
  obtain ⟨segment, -, rfl⟩ := List.mem_map.mp hs
  exact noQuery_encodePath segment

theorem noQuery_normalDrive {segment : List Char} (h : NoQuery segment) :
    NoQuery (normalDrive segment) := by
  unfold normalDrive
  split
  · have htake : ∀ c ∉ segment, c ∉ segment.take 1 := fun c hc hm => hc (List.mem_of_mem_take hm)
    simp [NoQuery, htake _ h.1, htake _ h.2]
  · exact h

theorem noQuery_detachDrive {segment : List Char} (h : NoQuery segment) :
    NoQuery (detachDrive segment) := by
  unfold detachDrive
  split
  · split
    · simpa [NoQuery] using h
    · exact h
  · exact h

/-- Slashes at the front count once. -/
theorem isPath_oneSlash {segments : List (List Char)} (h : ∀ s ∈ segments, NoQuery s) :
    IsPath (String.ofList
      ('/' :: (pathOfSegments (resolve [] segments)).toList.dropWhile (· = '/'))) := by
  obtain ⟨-, hquestion, hhash⟩ := isPath_resolve h
  refine ⟨.inr ⟨_, String.toList_ofList⟩, ?_⟩
  rw [String.toList_ofList]
  constructor
  · exact List.not_mem_cons_of_ne_of_not_mem (by simp) fun hm => hquestion (List.dropWhile_subset _ hm)
  · exact List.not_mem_cons_of_ne_of_not_mem (by simp) fun hm => hhash (List.dropWhile_subset _ hm)

theorem isPath_parseFilePath (cs : List Char) : IsPath (parseFilePath cs).1 := by
  have hsegments : ∀ s ∈ ((splitSegments .file cs).map encodePath).map normalDrive, NoQuery s := by
    intro s hs
    obtain ⟨encoded, he, rfl⟩ := List.mem_map.mp hs
    obtain ⟨segment, -, rfl⟩ := List.mem_map.mp he
    exact noQuery_normalDrive (noQuery_encodePath segment)
  unfold parseFilePath
  dsimp only
  generalize ((splitSegments .file cs).map encodePath).map normalDrive = segments at hsegments
  cases segments with
  | nil => exact isPath_oneSlash hsegments
  | cons first rest =>
    obtain ⟨hfirst, hrest⟩ := List.forall_mem_cons.mp hsegments
    exact isPath_oneSlash (List.forall_mem_cons.mpr ⟨noQuery_detachDrive hfirst, hrest⟩)

/-- The authority and the path of a URL are free of the marks that would end them. -/
structure Framed (u : Url) : Prop where
  username : Unmarked u.username.toList
  password : Unmarked u.password.toList
  host : ∀ host, u.host? = some host → Unmarked host.toList
  path : ∀ host, u.host? = some host → IsPath u.path

theorem parseUserInfo_unmarked (cs : List Char) :
    Unmarked (parseUserInfo cs).1.toList ∧ Unmarked (parseUserInfo cs).2.toList := by
  have hall : ∀ cs : List Char, Unmarked (Percent.encode Percent.inUserInfo cs).toList :=
    fun cs => Percent.unmarked_encode fun c _ he => not_endsAuthority ⟨rfl, rfl, rfl⟩ he
  exact ⟨hall _, hall _⟩

theorem framed_of_host {u : Url} {host : String} (hname : Unmarked u.username.toList)
    (hpassword : Unmarked u.password.toList) (hu : u.host? = some host) (hh : Unmarked host.toList)
    (hp : IsPath u.path) : Framed u where
  username := hname
  password := hpassword
  host other ho := by
    cases hu.symm.trans ho
    exact hh
  path _ _ := hp

theorem framed_of_no_host {scheme path : String} : Framed { scheme := scheme, path := path } where
  username := unmarked_nil
  password := unmarked_nil
  host _ h := by simp at h
  path _ h := by simp at h

theorem isPath_behindAuthority (k : SchemeKind) (cs : List Char) :
    IsPath (match cs with
      | [] => if k = .special then parsePath k [] else ""
      | c :: after => if k.isSlash c then parsePath k after else parsePath k (c :: after)) := by
  split
  · split
    · exact isPath_parsePath k []
    · exact ⟨.inl rfl, by simp [NoQuery]⟩
  · split
    · exact isPath_parsePath k _
    · exact isPath_parsePath k _

/-- Where one value or another is taken further, one of them is there. -/
theorem exists_of_ite_bind {α β : Type} {p : Prop} [Decidable p] {x y : Option α} {f : α → Option β}
    {b : β} (h : (if p then x.bind f else y.bind f) = some b) :
    ∃ a, (x = some a ∨ y = some a) ∧ f a = some b := by
  split at h
  · obtain ⟨a, hx, hf⟩ := Option.bind_eq_some_iff.mp h
    exact ⟨a, .inl hx, hf⟩
  · obtain ⟨a, hy, hf⟩ := Option.bind_eq_some_iff.mp h
    exact ⟨a, .inr hy, hf⟩

theorem framed_parseAuthority? {k : SchemeKind} {scheme : String} {isAll : Bool} {cs : List Char}
    {u : Url} (h : parseAuthority? k scheme isAll cs = some u) : u.scheme = scheme ∧ Framed u := by
  have huser := parseUserInfo_unmarked
  unfold parseAuthority? at h
  obtain ⟨-, h⟩ := Option.ite_none_left_eq_some.mp h
  obtain ⟨host, hhost, h⟩ := exists_of_ite_bind h
  have hunmarked : Unmarked host.toList := hhost.elim Host.unmarked_parse? Host.unmarked_parseOpaque?
  obtain ⟨-, h⟩ := Option.ite_none_left_eq_some.mp h
  obtain ⟨⟨port?, rest⟩, -, h⟩ := Option.bind_eq_some_iff.mp h
  cases h
  exact ⟨rfl, framed_of_host (huser _).1 (huser _).2 rfl hunmarked (isPath_behindAuthority k _)⟩

theorem unmarked_ite {drop : Bool} {host : String} (h : Unmarked host.toList) :
    Unmarked (if drop then "" else host).toList := by
  split
  · exact unmarked_nil
  · exact h

theorem framed_parseFile? {cs : List Char} {u : Url} (h : parseFile? cs = some u) :
    u.scheme = "file" ∧ Framed u := by
  have hpath := isPath_parseFilePath
  unfold parseFile? at h
  dsimp only at h
  split at h
  · cases h
    exact ⟨rfl, framed_of_host unmarked_nil unmarked_nil rfl unmarked_nil (hpath cs)⟩
  · split at h
    · cases h
      exact ⟨rfl, framed_of_host unmarked_nil unmarked_nil rfl (unmarked_ite unmarked_nil) (hpath _)⟩
    · obtain ⟨host, hhost, h⟩ := Option.bind_eq_some_iff.mp h
      cases h
      exact ⟨rfl, framed_of_host unmarked_nil unmarked_nil rfl
        (unmarked_ite (Host.unmarked_parse? hhost)) (hpath _)⟩

theorem eq_file_of_ofScheme {scheme : String} (h : SchemeKind.ofScheme scheme = .file) :
    scheme = "file" := by
  unfold SchemeKind.ofScheme at h
  split at h
  · next hs => exact hs
  · split at h
    · cases h
    · cases h

theorem framed_parseBody? {scheme : String} {isAll : Bool} {cs : List Char} {u : Url}
    (h : parseBody? scheme isAll cs = some u) : u.scheme = scheme ∧ Framed u := by
  have hpath := isPath_parseFilePath
  unfold parseBody? at h
  cases hk : SchemeKind.ofScheme scheme with
  | special =>
    rw [hk] at h
    exact framed_parseAuthority? h
  | file =>
    rw [hk] at h
    dsimp only at h
    split at h
    · split at h
      · obtain ⟨hfile, hframed⟩ := framed_parseFile? h
        exact ⟨hfile.trans (eq_file_of_ofScheme hk).symm, hframed⟩
      · cases h
        exact ⟨rfl, framed_of_host unmarked_nil unmarked_nil rfl unmarked_nil (hpath _)⟩
    · cases h
      exact ⟨rfl, framed_of_host unmarked_nil unmarked_nil rfl unmarked_nil (hpath _)⟩
  | other =>
    rw [hk] at h
    dsimp only at h
    split at h
    · exact framed_parseAuthority? h
    · cases h
      exact ⟨rfl, framed_of_no_host⟩
    · cases h
      exact ⟨rfl, framed_of_no_host⟩

/-- The scheme of a URL is written in lower case. -/
def IsScheme (scheme : String) : Prop :=
  ∀ c ∈ scheme.toList, isSchemeChar c = true ∧ c.toLower = c

theorem isScheme_of_all {scheme : String}
    (h : (scheme.toList.all fun c => isSchemeChar c && c.toLower == c) = true) : IsScheme scheme := by
  intro c hc
  simpa using List.all_eq_true.mp h c hc

theorem isSchemeChar_toLower {c : Char} (h : isSchemeChar c = true) :
    isSchemeChar c.toLower = true := by
  rcases Bool.or_eq_true_iff.mp h with h | h
  · rw [isSchemeChar, isAlphanum_toLower h, Bool.true_or]
  · revert h
    simp only [List.mem_cons, List.not_mem_nil, or_false, decide_eq_true_eq]
    rintro (rfl | rfl | rfl) <;> rfl

theorem isScheme_splitScheme? {cs rest : List Char} {scheme : String}
    (h : splitScheme? cs = some (scheme, rest)) : IsScheme scheme := by
  unfold splitScheme? at h
  split at h
  · split at h
    · split at h
      · cases h
        intro c hc
        rw [String.toList_ofList] at hc
        obtain ⟨d, hd, rfl⟩ := List.mem_map.mp hc
        exact ⟨isSchemeChar_toLower (List.mem_takeWhile_imp hd), Ascii.toLower_toLower d⟩
      · cases h
    · cases h
  · cases h

theorem hash_not_mem_encodeQuery (scheme : String) (cs : List Char) :
    '#' ∉ (Percent.encode (if SchemeKind.ofScheme scheme = .other then Percent.inQuery
      else Percent.inSpecialQuery) cs).toList := by
  apply Percent.not_mem_encode
  · simp
  · rfl
  · split
    · rfl
    · rfl

/-- What is known of the text of every URL that can be parsed. -/
theorem framed_parse? {s : String} {u : Url} (h : parse? s = some u) :
    IsScheme u.scheme ∧ Framed u ∧ ∀ query, u.query? = some query → '#' ∉ query.toList := by
  unfold parse? at h
  obtain ⟨⟨scheme, afterScheme⟩, hscheme, h⟩ := Option.bind_eq_some_iff.mp h
  obtain ⟨url, hbody, h⟩ := Option.bind_eq_some_iff.mp h
  cases h
  obtain ⟨rfl, hframed⟩ := framed_parseBody? hbody
  refine ⟨isScheme_splitScheme? hscheme, ⟨hframed.username, hframed.password, hframed.host,
    hframed.path⟩, ?_⟩
  intro query hquery
  obtain ⟨cs, -, rfl⟩ := Option.map_eq_some_iff.mp hquery
  exact hash_not_mem_encodeQuery _ cs

end Url

end HttpAuth
