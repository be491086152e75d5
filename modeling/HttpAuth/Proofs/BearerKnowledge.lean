import HttpAuth.Proofs.BearerRun
import HttpAuth.Proofs.FirstOccurrence

namespace HttpAuth

namespace BearerAuth

/-- What a call demands if it brings a complete challenge, whether or not that is accepted. -/
def Call.demand? : Call → Option Demand
  | .learn c => c.demand?
  | .authorize => none

def demands (calls : List Call) : List Demand := calls.filterMap Call.demand?

/-- The scopes of all demands for one realm and service, each where it comes first. -/
def scopesFor (realm service : String) (ds : List Demand) : List String :=
  ((ds.filter fun d => d.realm = realm ∧ d.service = service).map Demand.scope).eraseDups

theorem demands_append (calls : List Call) (c : Call) :
    demands (calls ++ [c]) = demands calls ++ c.demand?.toList := by
  rw [demands, List.filterMap_append]
  cases hd : c.demand? with
  | none => simp [demands, hd]
  | some d => simp [demands, hd]

section scopes

variable {realm service : String} {ds : List Demand} {d : Demand}

theorem scopesFor_other (hd : ¬ (d.realm = realm ∧ d.service = service)) :
    scopesFor realm service (ds ++ [d]) = scopesFor realm service ds := by
  simp [scopesFor, List.filter_append, hd]

theorem scopesFor_same (ds : List Demand) (hd : d.realm = realm ∧ d.service = service) :
    scopesFor realm service (ds ++ [d]) =
      if d.scope ∈ scopesFor realm service ds then scopesFor realm service ds
      else scopesFor realm service ds ++ [d.scope] := by
  have hf : ((ds ++ [d]).filter fun e => e.realm = realm ∧ e.service = service) =
      (ds.filter fun e => e.realm = realm ∧ e.service = service) ++ [d] := by
    simp [List.filter_append, hd]
  rw [scopesFor, hf, List.map_append, List.map_cons, List.map_nil, eraseDups_concat]
  simp only [scopesFor, List.mem_eraseDups]

theorem scopesFor_prefix (realm service : String) (ds more : List Demand) :
    scopesFor realm service ds <+: scopesFor realm service (ds ++ more) := by
  rw [scopesFor, scopesFor, List.filter_append, List.map_append, List.eraseDups_append]
  exact List.prefix_append _ _

end scopes

variable {W : Type} {net : Network W} {start : Moment W} {calls : List Call}

/-- Asking for a value teaches nothing. -/
theorem Outcome.learned {h h' : BearerAuth} {s s' : Session W} {result : Except AuthError String}
    (ho : Outcome net h s result h' s') :
    h'.realm? = h.realm? ∧ h'.service? = h.service? ∧ h'.scopes = h.scopes := by
  cases ho with
  | nothing | reused | renewed | failed => exact ⟨rfl, rfl, rfl⟩

/-- What the handler knows once the demands of a run have been made. -/
inductive Knowing (h : BearerAuth) : List Demand → Prop where
  | nothing (hr : h.realm? = none) (hs : h.service? = none) (hc : h.scopes = []) : Knowing h []
  | bound (first : Demand) (ds : List Demand) (hr : h.realm? = some first.realm)
    (hs : h.service? = some first.service)
    (hc : h.scopes = scopesFor first.realm first.service (first :: ds)) :
    Knowing h (first :: ds)

theorem Knowing.congr {h h' : BearerAuth} {ds : List Demand} (hk : Knowing h ds)
    (hh : h'.realm? = h.realm? ∧ h'.service? = h.service? ∧ h'.scopes = h.scopes) :
    Knowing h' ds := by
  obtain ⟨hr, hs, hc⟩ := hh
  cases hk with
  | nothing hr' hs' hc' => exact .nothing (hr.trans hr') (hs.trans hs') (hc.trans hc')
  | bound first ds hr' hs' hc' => exact .bound first ds (hr.trans hr') (hs.trans hs') (hc.trans hc')

/-- The first complete challenge is always accepted. -/
theorem Knowing.first {h : BearerAuth} {c : Challenge} {d : Demand} (hk : Knowing h [])
    (hh : h.Coherent) (hd : c.demand? = some d) :
    ∃ h', h.learn c = .ok h' ∧ Knowing h' [d] := by
  cases hk with
  | nothing hr hs hc =>
    have hw : h.wanted? = none := by simp only [wanted?, hr]
    refine ⟨_, learn_of_new hd hh (.inl hw) (by simp [hc]), .bound d [] rfl rfl ?_⟩
    simp [taught, hc, scopesFor, List.eraseDups_cons]

/-- A complete challenge that comes later is accepted if it agrees with the first and its scope is new. -/
theorem Knowing.later {h : BearerAuth} {c : Challenge} {first d : Demand} {ds : List Demand}
    (hk : Knowing h (first :: ds)) (hd : c.demand? = some d) :
    (∃ h', h.learn c = .ok h' ∧ Knowing h' (first :: ds ++ [d])) ∨
      (∃ e, h.learn c = .error e) ∧ Knowing h (first :: ds ++ [d]) := by
  cases hk with
  | bound _ _ hr hs hc =>
    have hw : h.wanted? = some ⟨first.realm, first.service, h.scopes⟩ := by
      simp only [wanted?, hr, hs]
    have hh : h.Coherent := coherent_of_wanted hw
    by_cases ha : d.realm = first.realm ∧ d.service = first.service
    · have hr' : h.realm? = some d.realm := by rw [hr, ha.1]
      have hs' : h.service? = some d.service := by rw [hs, ha.2]
      have hsame := scopesFor_same (first :: ds) ha
      rw [← hc] at hsame
      by_cases hm : d.scope ∈ h.scopes
      · rw [if_pos hm] at hsame
        exact .inr ⟨⟨_, learn_of_known hd hr' hs' hm⟩, .bound first _ hr hs hsame.symm⟩
      · rw [if_neg hm] at hsame
        exact .inl ⟨_, learn_of_new hd hh (.inr ⟨hr', hs'⟩) hm,
          .bound first _ (congrArg some ha.1) (congrArg some ha.2) hsame.symm⟩
    · refine .inr ⟨?_, .bound first _ hr hs (hc.trans (scopesFor_other ha).symm)⟩
      cases hl : h.learn c with
      | error e => exact ⟨e, rfl⟩
      | ok h' =>
        obtain ⟨d', hd', hadmits, -, -⟩ := learn_eq_ok hh hl
        rw [hd] at hd'
        cases hd'
        rcases hadmits with hn | ⟨hr', hs'⟩
        · rw [hw] at hn
          cases hn
        · have hrealm := Option.some.inj (hr'.symm.trans hr)
          have hservice := Option.some.inj (hs'.symm.trans hs)
          exact absurd ⟨hrealm, hservice⟩ ha

theorem knowing_run (net : Network W) (h : start.handler.Blank) (calls : List Call) :
    Knowing (run net start calls).handler (demands calls) := by
  induction calls using List.reverseRecOn with
  | nil => exact .nothing h.realm h.service h.scopes
  | append_singleton calls c ih =>
    rw [demands_append]
    cases c with
    | authorize =>
      rw [run_authorize]
      simpa [Call.demand?] using ih.congr (outcome_authorize net _ _).learned
    | learn c =>
      rw [run_append, call]
      cases hd : c.demand? with
      | none =>
        have hcall : (Call.learn c).demand? = none := hd
        rw [hcall]
        cases hl : (run net start calls).handler.learn c with
        | ok h' => exact absurd hl (learn_of_incomplete hd)
        | error e => simpa using ih
      | some d =>
        have hcall : (Call.learn c).demand? = some d := hd
        rw [hcall, Option.toList_some]
        cases hds : demands calls with
        | nil =>
          rw [hds] at ih
          obtain ⟨h', hl, hk⟩ := ih.first (sound_run h calls).coherent hd
          rw [hl]
          exact hk
        | cons first ds =>
          rw [hds] at ih
          rcases ih.later hd with ⟨h', hl, hk⟩ | ⟨⟨e, hl⟩, hk⟩
          · rw [hl]
            exact hk
          · rw [hl]
            exact hk

section bound

variable {h : BearerAuth} {ds : List Demand}

theorem Knowing.realm (hk : Knowing h ds) : h.realm? = ds.head?.map Demand.realm := by
  cases hk with
  | nothing hr => exact hr
  | bound first ds hr => exact hr

theorem Knowing.service (hk : Knowing h ds) : h.service? = ds.head?.map Demand.service := by
  cases hk with
  | nothing _ hs => exact hs
  | bound first ds _ hs => exact hs

theorem Knowing.scopes (hk : Knowing h ds) : h.scopes =
    ((ds.filter fun d => h.realm? = some d.realm ∧ h.service? = some d.service).map
      Demand.scope).eraseDups := by
  cases hk with
  | nothing _ _ hc => exact hc
  | bound first ds hr hs hc =>
    rw [hc, hr, hs, scopesFor]
    simp only [Option.some.injEq, eq_comm]

/-- Realm, service and scopes are learned together. -/
theorem Knowing.together (hk : Knowing h ds) :
    h.realm? = none ∧ h.service? = none ∧ h.scopes = [] ∨
      ∃ realm service, h.realm? = some realm ∧ h.service? = some service ∧ h.scopes ≠ [] := by
  cases hk with
  | nothing hr hs hc => exact .inl ⟨hr, hs, hc⟩
  | bound first ds hr hs hc =>
    refine .inr ⟨first.realm, first.service, hr, hs, ?_⟩
    rw [hc, scopesFor]
    simp [List.eraseDups_cons]

/-- Further demands change nothing but the end of the scopes. -/
theorem Knowing.extends {h' : BearerAuth} {more : List Demand} (hk : Knowing h ds)
    (hk' : Knowing h' (ds ++ more)) :
    (∀ realm, h.realm? = some realm → h'.realm? = some realm) ∧
      (∀ service, h.service? = some service → h'.service? = some service) ∧
        h.scopes <+: h'.scopes := by
  cases hk with
  | nothing hr hs hc =>
    rw [hr, hs, hc]
    exact ⟨by simp, by simp, List.nil_prefix⟩
  | bound first ds hr hs hc =>
    cases hk' with
    | bound _ _ hr' hs' hc' =>
      rw [hr, hs, hr', hs', hc, hc']
      exact ⟨fun _ h => h, fun _ h => h, scopesFor_prefix _ _ (first :: ds) more⟩

end bound

/-- Whatever is called in whatever order with whatever replies: the handler is bound to the realm and service of
the first complete challenge, and its scopes are those of all complete challenges for them, each where it first
came. All three are learned together, and further calls change nothing but the end of the scopes. -/
theorem knowledge_of_run (net : Network W) (host : String) (credentials : Credentials)
    (options : TokenOptions) (s : Session W) (calls more : List Call) :
    let start : Moment W := ⟨{ host := host, credentials := credentials, options := options }, s⟩
    let h := (run net start calls).handler
    let later := (run net start (calls ++ more)).handler
    let ds := demands calls
    (h.realm? = ds.head?.map Demand.realm ∧ h.service? = ds.head?.map Demand.service ∧
      h.scopes = ((ds.filter fun d => h.realm? = some d.realm ∧ h.service? = some d.service).map
        Demand.scope).eraseDups ∧ h.scopes.Nodup) ∧
    (h.realm? = none ∧ h.service? = none ∧ h.scopes = [] ∨
      ∃ realm service, h.realm? = some realm ∧ h.service? = some service ∧ h.scopes ≠ []) ∧
    (∀ realm, h.realm? = some realm → later.realm? = some realm) ∧
    (∀ service, h.service? = some service → later.service? = some service) ∧
    h.scopes <+: later.scopes := by
  intro start h later ds
  have hblank : start.handler.Blank := ⟨rfl, rfl, rfl, rfl⟩
  have hk : Knowing h ds := knowing_run net hblank calls
  have hlater : Knowing later (ds ++ demands more) := by
    have hrun := knowing_run net hblank (calls ++ more)
    rwa [demands, List.filterMap_append] at hrun
  have hnodup : h.scopes.Nodup := by
    rw [hk.scopes]
    exact nodup_eraseDups _
  exact ⟨⟨hk.realm, hk.service, hk.scopes, hnodup⟩, hk.together, hk.extends hlater⟩

end BearerAuth

end HttpAuth
