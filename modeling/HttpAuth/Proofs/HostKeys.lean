import HttpAuth.Http.Uri
import Mathlib.Data.List.Basic
import Mathlib.Data.List.TakeWhile

namespace HttpAuth.Uri

section last

variable {c : Char} {cs rest : List Char}

theorem forall_ne (h : c ∉ cs) : ∀ d ∈ cs, decide (d ≠ c) = true :=
  fun _ hd => decide_eq_true fun he => h (he ▸ hd)

theorem afterLast_of_notMem (h : c ∉ cs) : afterLast c cs = cs := by
  rw [← List.mem_reverse] at h
  rw [afterLast, List.takeWhile_eq_self_iff.mpr (forall_ne h), List.reverse_reverse]

theorem afterLast_append (front : List Char) (h : c ∉ rest) : afterLast c (front ++ c :: rest) = rest := by
  rw [← List.mem_reverse] at h
  rw [afterLast, List.reverse_append, List.reverse_cons, List.append_assoc,
    List.takeWhile_append_of_pos (forall_ne h)]
  simp

theorem exists_last (h : c ∈ cs) : ∃ front rest, cs = front ++ c :: rest ∧ c ∉ rest := by
  obtain ⟨rest, front, hcs, hrest⟩ := List.eq_append_cons_of_mem (List.mem_reverse.mpr h)
  refine ⟨front.reverse, rest.reverse, ?_, by rwa [List.mem_reverse]⟩
  rw [← List.reverse_reverse cs, hcs]
  simp

end last

/-- Nothing, or what the mark ends. -/
def EndsWith (c : Char) (front : List Char) : Prop := front = [] ∨ ∃ before, front = before ++ [c]

theorem afterLast_split (c : Char) (cs : List Char) :
    c ∉ afterLast c cs ∧ ∃ front, cs = front ++ afterLast c cs ∧ EndsWith c front := by
  by_cases h : c ∈ cs
  · obtain ⟨front, rest, rfl, hrest⟩ := exists_last h
    rw [afterLast_append front hrest]
    exact ⟨hrest, front ++ [c], by simp, .inr ⟨front, rfl⟩⟩
  · rw [afterLast_of_notMem h]
    exact ⟨h, [], rfl, .inl rfl⟩

section userInfo

variable {cs authority : List Char} {c : Char}

theorem number?_eq_none {base : Nat} (hc : Ascii.digitValue? base c = none) (h : c ∈ cs) :
    Ascii.number? base cs = none := by
  obtain ⟨front, rest, rfl⟩ := List.append_of_mem h
  rw [Ascii.number?, List.foldlM_append]
  cases front.foldlM (fun acc d => (Ascii.digitValue? base d).map (acc * base + ·)) 0 with
  | none => rfl
  | some n => simp [hc]

theorem portOf?_of_notMem (h : ':' ∉ authority) : portOf? authority = none := if_neg h

/-- The sign of user info is no digit. -/
theorem portOf?_of_sign (h : '@' ∈ afterLast ':' authority) : portOf? authority = none := by
  have hnone : ∀ digits : List Char, '@' ∈ digits →
      (if digits.isEmpty then none else (Ascii.number? 10 digits).filter (· ≤ maxPort)) = none := by
    intro digits hm
    rw [number?_eq_none rfl hm]
    split <;> rfl
  unfold portOf?
  split
  · dsimp only
    split
    · next rest hplus =>
      rw [hplus] at h
      exact hnone rest (List.mem_of_ne_of_mem (by decide) h)
    · exact hnone _ h
  · rfl

/-- A colon in the user info is followed by the sign, so no port is read there. -/
theorem portOf?_afterLast (authority : List Char) :
    portOf? authority = portOf? (afterLast '@' authority) := by
  obtain ⟨-, info, hsplit, hinfo⟩ := afterLast_split '@' authority
  generalize afterLast '@' authority = server at hsplit
  subst hsplit
  obtain rfl | ⟨before, rfl⟩ := hinfo
  · rfl
  by_cases hserver : ':' ∈ server
  · obtain ⟨front, rest, rfl, hrest⟩ := exists_last hserver
    have hbehind : afterLast ':' (before ++ ['@'] ++ (front ++ ':' :: rest)) =
        afterLast ':' (front ++ ':' :: rest) := by
      rw [← List.append_assoc, afterLast_append _ hrest, afterLast_append _ hrest]
    rw [portOf?, portOf?, hbehind, if_pos hserver, if_pos (List.mem_append_right _ hserver)]
  rw [portOf?_of_notMem hserver]
  by_cases hbefore : ':' ∈ before
  · obtain ⟨front, rest, rfl, hrest⟩ := exists_last hbefore
    apply portOf?_of_sign
    have hcolon : ':' ∉ rest ++ '@' :: server := by simp [hrest, hserver]
    rw [List.append_assoc, List.append_assoc, List.cons_append, List.cons_append, List.nil_append,
      afterLast_append front hcolon]
    exact List.mem_append_right _ List.mem_cons_self
  · exact portOf?_of_notMem (by simp [hbefore, hserver])

theorem hostOf_afterLast (authority : List Char) : hostOf authority = hostOf (afterLast '@' authority) := by
  have hsign := (afterLast_split '@' authority).1
  rw [hostOf, hostOf, afterLast_of_notMem hsign]

end userInfo

/-- An address in brackets, or a text without a colon. -/
def IsHost (host : List Char) : Prop :=
  (∃ inner, host = '[' :: inner ++ [']'] ∧ ']' ∉ inner) ∨ ':' ∉ host

/-- The host of an authority: it is behind the user info, and ends at its bracket or at a colon. -/
structure HostIn (authority host : List Char) : Prop where
  isHost : IsHost host
  place : ∃ info tail, authority = info ++ host ++ tail ∧ EndsWith '@' info ∧ '@' ∉ host ++ tail ∧
    (host.head? = some '[' ∨ tail = [] ∨ ∃ port, tail = ':' :: port)

theorem notMem_takeWhile_ne (c : Char) (cs : List Char) : c ∉ cs.takeWhile (· ≠ c) := by
  intro h
  simpa using List.mem_takeWhile_imp h

theorem isHost_hostOf (authority : List Char) : IsHost (hostOf authority) := by
  unfold hostOf
  split
  · next rest _ => exact .inl ⟨_, rfl, notMem_takeWhile_ne ']' rest⟩
  · exact .inr (notMem_takeWhile_ne ':' _)

theorem foldlM_keeps {σ : Type} {f : σ → Char → Option σ} {P : σ → Prop} {cs : List Char} {s t : σ}
    (hf : ∀ c ∈ cs, ∀ s t, f s c = some t → P s → P t) (h : cs.foldlM f s = some t) (hs : P s) : P t := by
  induction cs generalizing s with
  | nil =>
    cases h
    exact hs
  | cons c cs ih =>
    obtain ⟨hc, hcs⟩ := List.forall_mem_cons.mp hf
    rw [List.foldlM_cons] at h
    obtain ⟨r, hr, h⟩ := Option.bind_eq_some_iff.mp h
    exact ih hcs h (hc s r hr hs)

namespace AuthorityScan

variable {s t : AuthorityScan} {c : Char}

/-- What a step can do to the marks of a bracketed host. -/
theorem brackets_step (h : s.step c = some t) :
    (c = '[' ∧ s.opened = false ∧ t.opened = true ∧ t.closed = s.closed) ∨
      (c = ']' ∧ s.opened = true ∧ t.opened = true ∧ t.closed = true) ∨
      (c ≠ '[' ∧ c ≠ ']' ∧ t.opened = s.opened ∧ t.closed = s.closed) := by
  unfold step at h
  split at h
  · obtain ⟨-, h⟩ := Option.ite_none_right_eq_some.mp h
    cases h
    exact .inr (.inr ⟨by decide, by decide, rfl, rfl⟩)
  · obtain ⟨hfirst, h⟩ := Option.ite_none_left_eq_some.mp h
    cases h
    simp only [Bool.or_eq_true, not_or, Bool.not_eq_true] at hfirst
    exact .inl ⟨rfl, hfirst.2, rfl, rfl⟩
  · obtain ⟨hopen, h⟩ := Option.ite_none_right_eq_some.mp h
    cases h
    rw [Bool.and_eq_true] at hopen
    exact .inr (.inl ⟨rfl, hopen.1, hopen.1, rfl⟩)
  · cases h
    exact .inr (.inr ⟨by decide, by decide, rfl, rfl⟩)
  · cases h
    exact .inr (.inr ⟨by decide, by decide, rfl, rfl⟩)
  · next hopen hclose _ _ =>
    obtain ⟨-, h⟩ := Option.ite_none_right_eq_some.mp h
    cases h
    exact .inr (.inr ⟨hopen, hclose, rfl, rfl⟩)

/-- A bracket is closed only if one has been opened. -/
def Balanced (s : AuthorityScan) : Prop := s.closed = true → s.opened = true

theorem Balanced.step (hs : s.Balanced) (h : s.step c = some t) : t.Balanced := by
  rcases brackets_step h with ⟨-, -, ho, -⟩ | ⟨-, -, ho, -⟩ | ⟨-, -, ho, hc⟩
  · exact fun _ => ho
  · exact fun _ => ho
  · rwa [Balanced, ho, hc]

/-- A bracket is open. -/
def Unclosed (s : AuthorityScan) : Prop := s.opened = true ∧ s.closed = false

theorem Unclosed.step (hs : s.Unclosed) (h : s.step c = some t) (hc : c ≠ ']') : t.Unclosed := by
  rcases brackets_step h with ⟨-, -, ho, hcl⟩ | ⟨rfl, -⟩ | ⟨-, -, ho, hcl⟩
  · exact ⟨ho, hcl.trans hs.2⟩
  · exact absurd rfl hc
  · exact ⟨ho.trans hs.1, hcl.trans hs.2⟩

theorem unclosed_of_open (hs : s.Balanced) (h : s.step '[' = some t) : t.Unclosed := by
  rcases brackets_step h with ⟨-, hnone, ho, hcl⟩ | ⟨hne, -⟩ | ⟨hne, -⟩
  · refine ⟨ho, ?_⟩
    rw [hcl, Bool.eq_false_iff]
    intro hclosed
    rw [hs hclosed] at hnone
    cases hnone
  · exact absurd hne (by decide)
  · exact absurd rfl hne

end AuthorityScan

/-- In an authority every bracket is closed. -/
theorem closes_of_isAuthority {front rest : List Char} (h : isAuthority (front ++ '[' :: rest) = true) :
    ']' ∈ rest := by
  unfold isAuthority at h
  split at h
  · cases h
  · next t hrun =>
    rw [List.foldlM_append] at hrun
    obtain ⟨s, hs, hrun⟩ := Option.bind_eq_some_iff.mp hrun
    rw [List.foldlM_cons] at hrun
    obtain ⟨r, hr, hrun⟩ := Option.bind_eq_some_iff.mp hrun
    have hbalanced : s.Balanced :=
      foldlM_keeps (fun _ _ _ _ hstep hkeep => hkeep.step hstep) hs (by simp [AuthorityScan.Balanced])
    by_contra hrest
    obtain ⟨hopened, hclosed⟩ : t.Unclosed := by
      refine foldlM_keeps (fun c hc _ _ hstep hkeep => ?_) hrun (AuthorityScan.unclosed_of_open hbalanced hr)
      exact hkeep.step hstep fun he => hrest (he ▸ hc)
    simp [AuthorityScan.isComplete, hopened, hclosed] at h

theorem dropWhile_ne (c : Char) (cs : List Char) :
    cs.dropWhile (· ≠ c) = [] ∨ ∃ rest, cs.dropWhile (· ≠ c) = c :: rest := by
  cases h : cs.dropWhile (· ≠ c) with
  | nil => exact .inl rfl
  | cons d rest =>
    have hd := List.head?_dropWhile_not (fun x => decide (x ≠ c)) cs
    rw [h] at hd
    exact .inr ⟨rest, by simpa using hd⟩

theorem hostIn_hostOf {authority : List Char} (h : isAuthority authority = true) :
    HostIn authority (hostOf authority) := by
  refine ⟨isHost_hostOf authority, ?_⟩
  obtain ⟨hsign, info, hsplit, hinfo⟩ := afterLast_split '@' authority
  unfold hostOf
  generalize afterLast '@' authority = server at hsign hsplit
  subst hsplit
  split
  · next rest =>
    obtain ⟨inner, tail, rfl, hinner⟩ := List.eq_append_cons_of_mem (closes_of_isAuthority h)
    have htake : (inner ++ ']' :: tail).takeWhile (· ≠ ']') = inner := by
      rw [List.takeWhile_append_of_pos (forall_ne hinner)]
      simp
    rw [htake]
    exact ⟨info, tail, by simp, hinfo, by simpa using hsign, .inl rfl⟩
  · refine ⟨info, server.dropWhile (· ≠ ':'), ?_, hinfo, ?_, .inr (dropWhile_ne ':' server)⟩
    · rw [List.append_assoc, List.takeWhile_append_dropWhile]
    · rwa [List.takeWhile_append_dropWhile]

theorem isAuthority_of_parse? {s authority : String} {u : Uri} (h : parse? s = some u)
    (ha : u.authority? = some authority) : isAuthority authority.toList = true := by
  unfold parse? at h
  obtain ⟨-, h⟩ := Option.ite_none_left_eq_some.mp h
  split at h
  · cases h
  · cases h
    cases ha
  · obtain ⟨r, -, rfl⟩ := Option.map_eq_some_iff.mp h
    cases ha
  · obtain ⟨hfits, h⟩ := Option.ite_none_left_eq_some.mp h
    simp only [Bool.or_eq_true, not_or, Bool.not_eq_true, Bool.not_eq_eq_eq_not, Bool.not_true,
      Bool.not_eq_false] at hfits
    split at h
    · obtain ⟨-, h⟩ := Option.ite_none_right_eq_some.mp h
      cases h
      cases ha
      rw [String.toList_ofList]
      exact hfits.2
    · obtain ⟨r, -, rfl⟩ := Option.map_eq_some_iff.mp h
      cases ha
      rw [String.toList_ofList]
      exact hfits.2

theorem authority?_of_scheme {s : String} {u : Uri} (h : parse? s = some u) (hs : u.scheme? ≠ none) :
    u.authority? ≠ none := by
  unfold parse? at h
  obtain ⟨-, h⟩ := Option.ite_none_left_eq_some.mp h
  split at h
  · cases h
  · cases h
    exact absurd rfl hs
  · obtain ⟨r, -, rfl⟩ := Option.map_eq_some_iff.mp h
    exact absurd rfl hs
  · obtain ⟨-, h⟩ := Option.ite_none_left_eq_some.mp h
    split at h
    · obtain ⟨-, h⟩ := Option.ite_none_right_eq_some.mp h
      cases h
      exact absurd rfl hs
    · obtain ⟨r, -, rfl⟩ := Option.map_eq_some_iff.mp h
      exact Option.some_ne_none _

section keys

variable {u v : Uri}

/-- A host with its port, if it has one. -/
def withPort (host : String) : Option Nat → String
  | some port => host ++ ":" ++ toString port
  | none => host

theorem hostKey?_eq (u : Uri) : u.hostKey? = u.host?.map (withPort · u.port?) := by
  unfold hostKey?
  cases u.port? <;> rfl

theorem notMem_decimal {c : Char} (hc : c.isDigit = false) (n : Nat) : c ∉ (toString n).toList := by
  intro h
  rw [Nat.toString_eq_repr, Nat.toList_repr] at h
  have hdigit := Nat.isDigit_of_mem_toDigits (by decide) (by decide) h
  rw [hc] at hdigit
  cases hdigit

theorem decimal_injective {m n : Nat} (h : (toString m).toList = (toString n).toList) : m = n := by
  simp only [Nat.toString_eq_repr, Nat.toList_repr] at h
  have hread := congrArg (fun digits => Nat.ofDigitChars 10 digits 0) h
  simpa [Nat.ofDigitChars_toDigits] using hread

theorem toList_withPort (host : String) (port : Nat) :
    (withPort host (some port)).toList = host.toList ++ ':' :: (toString port).toList := by
  simp [withPort]

/-- No host looks like one with a port: with a colon it ends in a bracket, and a port does not. -/
theorem withPort_ne {host other : String} (port : Nat) (h : IsHost other.toList) :
    withPort host (some port) ≠ other := by
  rintro rfl
  rw [toList_withPort] at h
  rcases h with ⟨inner, hinner, -⟩ | hcolon
  · have hbracket := notMem_decimal (c := ']') rfl port
    obtain hnil | ⟨digits, d, hd⟩ := List.eq_nil_or_concat' (toString port).toList
    · rw [Nat.toString_eq_repr, Nat.toList_repr] at hnil
      exact Nat.toDigits_ne_nil hnil
    · rw [hd, ← List.cons_append, ← List.append_assoc] at hinner
      have hlast : d = ']' := List.singleton_inj.mp (List.append_inj_right' hinner rfl)
      rw [hd, hlast] at hbracket
      exact hbracket (List.mem_append_right _ List.mem_cons_self)
  · exact hcolon (List.mem_append_right _ List.mem_cons_self)

theorem withPort_inj {host other : String} (h : IsHost host.toList) (h' : IsHost other.toList)
    {port? port?' : Option Nat} :
    withPort host port? = withPort other port?' ↔ host = other ∧ port? = port?' := by
  constructor
  · intro hkey
    cases port? with
    | none =>
      cases port?' with
      | none => exact ⟨hkey, rfl⟩
      | some port => exact absurd hkey.symm (withPort_ne port h)
    | some port =>
      cases port?' with
      | none => exact absurd hkey (withPort_ne port h')
      | some port' =>
        have hlist := congrArg String.toList hkey
        rw [toList_withPort, toList_withPort] at hlist
        -- the last colon is the one before the port
        have hdigits := congrArg (afterLast ':') hlist
        rw [afterLast_append _ (notMem_decimal rfl port),
          afterLast_append _ (notMem_decimal rfl port')] at hdigits
        rw [hdigits] at hlist
        refine ⟨String.toList_inj.mp (List.append_cancel_right hlist), ?_⟩
        rw [decimal_injective hdigits]
  · rintro ⟨rfl, rfl⟩
    rfl

theorem isHost_of_host? {host : String} (h : u.host? = some host) : IsHost host.toList := by
  obtain ⟨authority, -, rfl⟩ := Option.map_eq_some_iff.mp h
  rw [String.toList_ofList]
  exact isHost_hostOf _

theorem port?_of_no_host (h : u.host? = none) : u.port? = none := by
  rw [host?, Option.map_eq_none_iff] at h
  rw [port?, h]
  rfl

/-- What names the server in a URI: its authority without the user info. -/
def server? (u : Uri) : Option (List Char) := u.authority?.map fun a => afterLast '@' a.toList

theorem host?_eq_server (u : Uri) : u.host? = u.server?.map fun s => String.ofList (hostOf s) := by
  rw [host?, server?, Option.map_map]
  congr 1
  funext a
  exact congrArg String.ofList (hostOf_afterLast a.toList)

theorem port?_eq_server (u : Uri) : u.port? = u.server?.bind portOf? := by
  rw [port?, server?, Option.bind_map]
  congr 1
  funext a
  exact portOf?_afterLast a.toList

theorem hostKey?_inj : u.hostKey? = v.hostKey? ↔ u.host? = v.host? ∧ u.port? = v.port? := by
  rw [hostKey?_eq, hostKey?_eq]
  cases hu : u.host? with
  | none =>
    cases hv : v.host? with
    | none => simp [port?_of_no_host hu, port?_of_no_host hv]
    | some host => simp
  | some host =>
    cases hv : v.host? with
    | none => simp
    | some other => simp [withPort_inj (isHost_of_host? hu) (isHost_of_host? hv)]

/-- A key names one host with one port, or without a port. The host is found in the authority of the URI, behind the
user info; nothing but that host and the port that is read behind it makes a difference. An absolute URI has a key,
and without an authority there is none. -/
theorem hostKey_identifies {s : String} (hu : parse? s = some u) (v : Uri) :
    (u.hostKey? = v.hostKey? ↔ u.host? = v.host? ∧ u.port? = v.port?) ∧
    (u.server? = v.server? → u.hostKey? = v.hostKey?) ∧
    (∀ authority, u.authority? = some authority →
      ∃ host, u.host? = some host ∧ HostIn authority.toList host.toList) ∧
    (u.scheme? ≠ none → u.hostKey? ≠ none) ∧
    (u.authority? = none → u.hostKey? = none) := by
  refine ⟨hostKey?_inj, ?_, ?_, ?_, ?_⟩
  · intro hserver
    rw [hostKey?_inj, host?_eq_server, host?_eq_server, port?_eq_server, port?_eq_server, hserver]
    exact ⟨rfl, rfl⟩
  · intro authority ha
    refine ⟨String.ofList (hostOf authority.toList), by rw [host?, ha]; rfl, ?_⟩
    rw [String.toList_ofList]
    exact hostIn_hostOf (isAuthority_of_parse? hu ha)
  · intro hs
    have ha := authority?_of_scheme hu hs
    rwa [hostKey?_eq, host?, ne_eq, Option.map_eq_none_iff, Option.map_eq_none_iff]
  · intro ha
    rw [hostKey?_eq, host?, ha]
    rfl

/-- Two spellings of one address and port, with a colon in the user info of one. -/
theorem hostKey_identifies_address :
    let u : Uri := ⟨some "https", some "user:1@[::1]:080", "/v2/", some "a:b@c"⟩
    let v : Uri := ⟨some "http", some "[::1]:+80", "", none⟩
    parse? "https://user:1@[::1]:080/v2/?a:b@c" = some u ∧ parse? "http://[::1]:+80" = some v ∧
      u.hostKey? = v.hostKey? ∧ u.hostKey? ≠ { v with authority? := some "[::1]" }.hostKey? ∧
      u.hostKey? ≠ none := by
  intro u v
  have hu : parse? "https://user:1@[::1]:080/v2/?a:b@c" = some u := by decide +kernel
  obtain ⟨hsame, -, -, hkey, -⟩ := hostKey_identifies hu v
  obtain ⟨hother, -⟩ := hostKey_identifies hu { v with authority? := some "[::1]" }
  refine ⟨hu, by decide +kernel, hsame.mpr (by decide +kernel), ?_, hkey (Option.some_ne_none _)⟩
  rw [ne_eq, hother]
  decide +kernel

end keys

end HttpAuth.Uri
