import HttpAuth.Proofs.Exchange
import HttpAuth.Proofs.UrlText

namespace HttpAuth

theorem takeWhile_of_end {p : Char → Bool} {cs : List Char} {c : Char} (rest : List Char)
    (h : ∀ d ∈ cs, p d = true) (hc : p c = false) :
    (cs ++ c :: rest).takeWhile p = cs ∧ (cs ++ c :: rest).dropWhile p = c :: rest := by
  rw [List.takeWhile_append_of_pos h, List.dropWhile_append_of_pos h, List.takeWhile_cons,
    List.dropWhile_cons, hc]
  simp

/-- A text is cut at its first colon in one way only. -/
theorem append_colon_inj {cs ds rest tail : List Char} (hc : ':' ∉ cs) (hd : ':' ∉ ds)
    (h : cs ++ ':' :: rest = ds ++ ':' :: tail) : cs = ds ∧ rest = tail := by
  have hcut : ∀ {xs : List Char} (ys : List Char), ':' ∉ xs →
      (xs ++ ':' :: ys).takeWhile (· ≠ ':') = xs ∧
        (xs ++ ':' :: ys).dropWhile (· ≠ ':') = ':' :: ys := by
    intro xs ys hxs
    exact takeWhile_of_end ys (fun c hx => decide_eq_true fun he => hxs (he ▸ hx)) (by simp)
  obtain ⟨hfront, hback⟩ := hcut rest hc
  rw [h, (hcut tail hd).1] at hfront
  rw [h, (hcut tail hd).2] at hback
  exact ⟨hfront.symm, (List.cons.inj hback).2.symm⟩

theorem eq_slash_of_toLower {c : Char} (h : c.toLower = '/') : c = '/' := by
  have hn := toNat_toLower c
  rw [h] at hn
  apply Char.toNat_inj.mp
  split at hn
  · have : '/'.toNat = 47 := rfl
    omega
  · exact hn.symm

namespace Url

theorem IsScheme.not_mem {scheme : String} (hs : IsScheme scheme) {c : Char}
    (hc : isSchemeChar c = false) : c ∉ scheme.toList := by
  intro hm
  simp [(hs c hm).1] at hc

theorem IsScheme.map_toLower {scheme : String} (hs : IsScheme scheme) :
    scheme.toList.map Char.toLower = scheme.toList :=
  (List.map_congr_left fun c hc => (hs c hc).2).trans (List.map_id _)

end Url

namespace Uri

open Url (IsScheme)

/-- A word with colon and slashes behind it stands in front of a URL only if the word is the scheme. -/
theorem scheme_of_sameLetters {scheme : String} (word : String) {rest : List Char} (hs : IsScheme scheme)
    (hw : IsScheme word)
    (h : Ascii.sameLetters ((scheme.toList ++ ':' :: rest).take (word.toList.length + 3))
      (word.toList ++ [':', '/', '/']) = true) :
    scheme = word ∧ ∃ after, rest = '/' :: '/' :: after := by
  have hfront : ((scheme.toList ++ ':' :: rest).map Char.toLower).take (word.toList.length + 3) =
      word.toList ++ [':', '/', '/'] := by
    rw [← List.map_take, eq_of_beq h, List.map_append, hw.map_toLower]
    rfl
  generalize hn : word.toList.length + 3 = n at hfront
  have hsplit := List.take_append_drop n ((scheme.toList ++ ':' :: rest).map Char.toLower)
  rw [hfront, List.map_append, hs.map_toLower, List.append_assoc] at hsplit
  obtain ⟨hname, hrest⟩ := append_colon_inj (hw.not_mem rfl) (hs.not_mem rfl) hsplit
  refine ⟨(String.toList_inj.mp hname).symm, ?_⟩
  obtain ⟨c, more, rfl, hc, hmore⟩ := List.map_eq_cons_iff.mp hrest.symm
  obtain ⟨d, after, rfl, hd, -⟩ := List.map_eq_cons_iff.mp hmore
  rw [eq_slash_of_toLower hc, eq_slash_of_toLower hd]
  exact ⟨after, rfl⟩

/-- Every character of the scheme of a URL may stand in the scheme of a target. -/
theorem isSchemeChar_of_isScheme {scheme : String} (hs : IsScheme scheme) :
    ∀ c ∈ scheme.toList, isSchemeChar c = true := by
  intro c hc
  have hurl := (hs c hc).1
  simp only [Url.isSchemeChar, Bool.or_eq_true, decide_eq_true_eq, List.mem_cons,
    List.not_mem_nil, or_false] at hurl
  simp only [isSchemeChar, Bool.or_eq_true, decide_eq_true_eq, List.mem_cons, List.not_mem_nil,
    or_false]
  rcases hurl with h | h | h | h <;> simp [h]

/-- A scheme is found only if colon and slashes are behind it. -/
theorem splitScheme_cases {scheme : String} (rest : List Char) (hs : IsScheme scheme) :
    splitScheme (scheme.toList ++ ':' :: rest) = (none, scheme.toList ++ ':' :: rest) ∨
      ∃ after, rest = '/' :: '/' :: after ∧
        splitScheme (scheme.toList ++ ':' :: rest) = (some scheme, after) := by
  unfold splitScheme
  split
  · next h =>
    obtain ⟨rfl, after, rfl⟩ := scheme_of_sameLetters "http" hs (Url.isScheme_of_all rfl) h
    exact .inr ⟨after, rfl, rfl⟩
  · split
    · next h =>
      obtain ⟨rfl, after, rfl⟩ := scheme_of_sameLetters "https" hs (Url.isScheme_of_all rfl) h
      exact .inr ⟨after, rfl, rfl⟩
    · obtain ⟨htake, hdrop⟩ :=
        takeWhile_of_end rest (isSchemeChar_of_isScheme hs) (c := ':') rfl
      rw [htake, hdrop]
      dsimp only
      split
      · next after heq =>
        cases heq
        split
        · exact .inr ⟨after, rfl, by rw [String.ofList_toList]⟩
        · exact .inl rfl
      · exact .inl rfl

/-- A target that begins with a scheme and has a query is absolute. -/
theorem parse?_of_scheme {s scheme : String} {rest : List Char} {uri : Uri} (hs : IsScheme scheme)
    (hlist : s.toList = scheme.toList ++ ':' :: rest) (hquery : '?' ∈ rest) (hp : parse? s = some uri) :
    ∃ after path query?, rest = '/' :: '/' :: after ∧
      parsePath? (after.dropWhile (!endsAuthority ·)) = some (path, query?) ∧
      uri = { scheme? := some scheme, path := path, query? := query?
              authority? := some (String.ofList (after.takeWhile (!endsAuthority ·))) } := by
  have hlong : ∀ c, scheme.toList ++ ':' :: rest ≠ [c] := by
    intro c hc
    have hpos := List.length_pos_of_mem hquery
    have hlength := congrArg List.length hc
    simp only [List.length_append, List.length_cons, List.length_nil] at hlength
    omega
  have hslash : ∀ more, scheme.toList ++ ':' :: rest ≠ '/' :: more := by
    intro more hc
    rcases List.append_eq_cons_iff.mp hc with ⟨-, hcons⟩ | ⟨tail, hscheme, -⟩
    · simp at hcons
    · exact hs.not_mem (c := '/') rfl (hscheme ▸ List.mem_cons_self)
  unfold parse? at hp
  rw [hlist] at hp
  obtain ⟨-, hp⟩ := Option.ite_none_left_eq_some.mp hp
  split at hp
  · next hnil => exact absurd hnil (by simp)
  · next hstar => exact absurd hstar (hlong _)
  · next more hmore => exact absurd hmore (hslash more)
  · rcases splitScheme_cases rest hs with hsplit | ⟨after, rfl, hsplit⟩
    · rw [hsplit] at hp
      obtain ⟨-, hp⟩ := Option.ite_none_left_eq_some.mp hp
      -- an authority alone has no query
      obtain ⟨hempty, -⟩ := Option.ite_none_right_eq_some.mp hp
      have hall := List.dropWhile_eq_nil_iff.mp (List.isEmpty_iff.mp hempty)
      have hmark := hall '?' (List.mem_append_right _ (List.mem_cons_of_mem _ hquery))
      simp [endsAuthority] at hmark
    · rw [hsplit] at hp
      obtain ⟨-, hp⟩ := Option.ite_none_left_eq_some.mp hp
      obtain ⟨⟨path, query?⟩, hpath, rfl⟩ := Option.map_eq_some_iff.mp hp
      exact ⟨after, path, query?, rfl, hpath, rfl⟩

theorem parsePath?_of_query {path query tail : List Char} (hpath : Url.NoQuery path)
    (hquery : '#' ∉ query) (htail : tail = [] ∨ ∃ fragment, tail = '#' :: fragment)
    {result : String × Option String} (h : parsePath? (path ++ '?' :: (query ++ tail)) = some result) :
    result = (String.ofList path, some (String.ofList query)) := by
  have hp : ∀ c ∈ path, (decide (c ≠ '?') && decide (c ≠ '#')) = true := by
    intro c hc
    have hquestion : c ≠ '?' := fun he => hpath.1 (he ▸ hc)
    have hhash : c ≠ '#' := fun he => hpath.2 (he ▸ hc)
    simp [hquestion, hhash]
  have hq : (query ++ tail).takeWhile (· ≠ '#') = query := by
    have hall : ∀ c ∈ query, decide (c ≠ '#') = true :=
      fun c hc => decide_eq_true fun he => hquery (he ▸ hc)
    rcases htail with rfl | ⟨fragment, rfl⟩
    · rw [List.append_nil]
      exact List.takeWhile_eq_self_iff.mpr hall
    · exact (takeWhile_of_end fragment hall (by simp)).1
  obtain ⟨htake, hdrop⟩ := takeWhile_of_end (query ++ tail) hp (c := '?') (by simp)
  have hfront : (path ++ '?' :: (query ++ tail)).takeWhile (fun c => c ≠ '?' && c ≠ '#') = path := htake
  have hback : (path ++ '?' :: (query ++ tail)).dropWhile (fun c => c ≠ '?' && c ≠ '#') =
      '?' :: (query ++ tail) := hdrop
  simp only [parsePath?, hfront, hback, hq] at h
  obtain ⟨-, h⟩ := Option.ite_none_right_eq_some.mp h
  obtain ⟨-, h⟩ := Option.ite_none_right_eq_some.mp h
  exact (Option.some.inj h).symm

end Uri

namespace Url

variable {u : Url}

theorem text_toList {query : String} (hq : u.query? = some query) :
    u.text.toList = u.scheme.toList ++ ':' :: (u.authorityText.toList ++
      (u.pathText.toList ++ '?' :: (query.toList ++ (withMark "#" u.fragment?).toList))) := by
  simp [text, hq, withMark, String.toList_append]

theorem withMark_cases (fragment? : Option String) :
    (withMark "#" fragment?).toList = [] ∨
      ∃ fragment, (withMark "#" fragment?).toList = '#' :: fragment := by
  cases fragment? with
  | none => exact .inl rfl
  | some fragment => exact .inr ⟨fragment.toList, String.toList_append⟩

/-- Without a host nothing that looks like an authority is behind the colon. -/
theorem pathText_of_no_host (hn : u.host? = none) (rest after : List Char) :
    u.pathText.toList ++ '?' :: rest ≠ '/' :: '/' :: after := by
  intro h
  cases hslashes : u.path.startsWith "//" with
  | true =>
    have htext : u.pathText = "/." ++ u.path := by
      rw [pathText, hn, hslashes]
      rfl
    rw [htext, String.toList_append] at h
    cases h
  | false =>
    have htext : u.pathText = u.path := by
      rw [pathText, hn, hslashes]
      rfl
    refine String.startsWith_string_eq_false_iff.mp hslashes ?_
    rw [htext] at h
    generalize u.path.toList = path at h ⊢
    match path with
    | [] => cases h
    | [_] => cases h
    | _ :: _ :: more =>
      cases h
      exact ⟨more, rfl⟩

theorem unmarked_userInfoText (hf : Framed u) : Unmarked u.userInfoText.toList := by
  have hname := hf.username
  have hpassword := hf.password
  unfold userInfoText
  split
  · simp
  · split
    · simp [hname, Uri.endsAuthority]
    · simp [hname, hpassword, Uri.endsAuthority]

theorem authorityText_of_host {host : String} (hu : u.host? = some host) (hf : Framed u) :
    ∃ authority, u.authorityText = "//" ++ authority ∧ Unmarked authority.toList := by
  have huser := unmarked_userInfoText hf
  have hhost := hf.host host hu
  cases hport : u.port? with
  | none =>
    exact ⟨u.userInfoText ++ host, by simp [authorityText, hu, hport, String.append_assoc],
      by simp [huser, hhost]⟩
  | some port =>
    exact ⟨u.userInfoText ++ host ++ ":" ++ toString port,
      by simp [authorityText, hu, hport, String.append_assoc],
      by simp [huser, hhost, unmarked_decimal, Uri.endsAuthority]⟩

/-- What follows an authority ends it. -/
theorem IsPath.ends {path : String} (hp : IsPath path) (rest : List Char) :
    ∃ c tail, path.toList ++ '?' :: rest = c :: tail ∧ Uri.endsAuthority c = true := by
  rcases hp.front with rfl | ⟨more, hmore⟩
  · exact ⟨'?', rest, rfl, rfl⟩
  · exact ⟨'/', more ++ '?' :: rest, by rw [hmore, List.cons_append], rfl⟩

/-- A URL with a query keeps its parts when its text is read as the target of a request. Without a host it is no
target at all. -/
theorem target_of_text {query : String} {uri : Uri} (hs : IsScheme u.scheme) (hf : Framed u)
    (hq : u.query? = some query) (hn : '#' ∉ query.toList) (hp : Uri.parse? u.text = some uri) :
    ∃ authority, u.authorityText = "//" ++ authority ∧ Unmarked authority.toList ∧ IsPath u.path ∧
      uri = { scheme? := some u.scheme, authority? := some authority, path := u.path, query? := some query } := by
  obtain ⟨after, path, query?, hrest, hpath, rfl⟩ :=
    Uri.parse?_of_scheme hs (text_toList hq) (by simp) hp
  cases hu : u.host? with
  | none =>
    have hnone : u.authorityText = "" := by rw [authorityText, hu]
    rw [hnone] at hrest
    exact absurd hrest (pathText_of_no_host hu _ _)
  | some host =>
    obtain ⟨authority, htext, hunmarked⟩ := authorityText_of_host hu hf
    have hbehind : u.pathText = u.path := by
      rw [pathText, hu]
      rfl
    have hisPath := hf.path host hu
    obtain ⟨c, tail, hends, hc⟩ :=
      hisPath.ends (query.toList ++ (withMark "#" u.fragment?).toList)
    have hafter : after = authority.toList ++ c :: tail := by
      rw [htext, hbehind, hends, String.toList_append] at hrest
      exact (List.cons.inj (List.cons.inj hrest).2).2.symm
    obtain ⟨htake, hdrop⟩ := takeWhile_of_end (p := (!Uri.endsAuthority ·)) tail
      (fun d hd => by rw [hunmarked d hd]; rfl) (c := c) (by rw [hc]; rfl)
    rw [← hafter] at htake hdrop
    rw [hdrop, ← hends] at hpath
    have hparts := Uri.parsePath?_of_query hisPath.noQuery hn (withMark_cases _) hpath
    rw [String.ofList_toList, String.ofList_toList] at hparts
    cases hparts
    exact ⟨authority, htext, hunmarked, hisPath, by rw [htake, String.ofList_toList]⟩

theorem framed_appendPairs {pairs : List (String × String)} (hf : Framed u) : Framed (u.appendPairs pairs) :=
  ⟨hf.username, hf.password, hf.host, hf.path⟩

end Url

/-- The target as it is printed has no fragment. -/
theorem Uri.hash_not_mem_text {scheme authority path query : String} (hs : Url.IsScheme scheme)
    (ha : Unmarked authority.toList) (hp : Url.IsPath path) (hq : '#' ∉ query.toList) :
    let uri : Uri := ⟨some scheme, some authority, path, some query⟩
    '#' ∉ uri.text.toList := by
  intro uri
  have hauthority : '#' ∉ authority.toList := fun hm => by simpa [Uri.endsAuthority] using ha '#' hm
  have hpath : '#' ∉ uri.printedPath.toList := by
    unfold Uri.printedPath
    split
    · simp
    · exact hp.noQuery.2
  simp [uri, Uri.text, hs.not_mem (c := '#') rfl, hauthority, hpath, hq]

namespace TokenRequest

theorem authorization_headers (credentials : Credentials) :
    Headers.values (headers credentials) Header.authorization ≠ [] ↔
      credentials.username ≠ "" ∧ credentials.password ≠ "" := by
  have hnames : Header.accept ≠ Header.authorization := by decide
  have hboth : credentials.isAnonymous = false ↔
      credentials.username ≠ "" ∧ credentials.password ≠ "" := by
    simp [Credentials.isAnonymous]
  rw [← hboth]
  cases hanonymous : credentials.isAnonymous with
  | true => simp [Headers.values, headers, hanonymous, hnames]
  | false => simp [Headers.values, headers, hanonymous, hnames]

end TokenRequest

end HttpAuth
