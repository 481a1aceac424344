import TestOps.ControlPlane.AiProviders

/-! The credential of a model, and the gateways that use it, under concurrent requests and in several
    processes. A request writes what it has made of the row it has locked, so nothing is lost:

      history     create key k₁      rename      replace by k₂      drop the key
      credential       k₁              k₁             k₂               none

    A gateway that a process has kept is the one it would make now. -/

namespace TestOps.AiProviders

open Checked Relational Transition

variable {settings : Settings}

/-! ### What is kept in a process -/

/-- The texts that a gateway is made of, besides the settings. -/
def sourceTexts (record : AiModelProviderRecord) : List Text :=
  [record.baseUrl, record.model, record.apiKeyCiphertext.getD []]

theorem fingerprintText_eq (settings : Settings) (record : AiModelProviderRecord) :
    fingerprintText settings record =
      List.intercalate ['\u0000'] (sourceTexts record) ++ ('\u0000' :: List.intercalate ['\u0000']
        [settings.aiTimeoutSeconds, settings.aiAnalysisMaxTokens, settings.aiThinkingBudget,
          settings.aiMaxConcurrency]) := by
  simp [fingerprintText, sourceTexts, List.intercalate]

theorem storable_sourceTexts {record : AiModelProviderRecord} (h : record.storable) :
    ∀ text ∈ sourceTexts record, '\u0000' ∉ text := by
  intro text htext
  refine h text ?_
  simp only [sourceTexts, List.mem_cons, List.not_mem_nil, or_false] at htext ⊢
  exact .inr htext

theorem credential_given (record : AiModelProviderRecord) :
    credential settings record =
      match given (some (record.apiKeyCiphertext.getD [])) with
      | none => .ok none
      | some ciphertext => do
        let material ← found (secretMaterial settings)
          ⟨"AI model credential encryption is not configured"⟩
        let apiKey ← decrypt settings material ciphertext
        return some apiKey := by
  rw [credential]
  cases record.apiKeyCiphertext with
  | none => rfl
  | some ciphertext => rfl

/-- A gateway is made of these texts only. -/
theorem makeGateway_congr {record record' : AiModelProviderRecord}
    (h : sourceTexts record = sourceTexts record') :
    makeGateway settings record = makeGateway settings record' := by
  simp only [sourceTexts, List.cons.injEq, and_true] at h
  obtain ⟨hurl, hmodel, hcipher⟩ := h
  rw [makeGateway, makeGateway, credential_given, credential_given, hurl, hmodel, hcipher]

theorem makeGateway_fingerprint (hsha : Function.Injective settings.sha256)
    {record record' : AiModelProviderRecord} (h : record.storable) (h' : record'.storable)
    (hprint : fingerprint settings record = fingerprint settings record') :
    makeGateway settings record = makeGateway settings record' := by
  refine makeGateway_congr ?_
  have htexts := Utf8.encode_injective (hsha hprint)
  rw [fingerprintText_eq, fingerprintText_eq] at htexts
  have hjoined := congrArg (List.splitOn '\u0000') (List.append_cancel_right htexts)
  rwa [List.splitOn_intercalate _ (storable_sourceTexts h) (List.cons_ne_nil _ _),
    List.splitOn_intercalate _ (storable_sourceTexts h') (List.cons_ne_nil _ _)] at hjoined

/-- What a process keeps was made of rows that could be stored. -/
def Kept (settings : Settings) (cache : GatewayCache) : Prop :=
  Memo.Coherent AiModelProviderRecord.storable (fingerprint settings) (makeGateway settings) cache

theorem Kept.gatewayFor (hsha : Function.Injective settings.sha256) {cache cache' : GatewayCache}
    (h : Kept settings cache) {record : AiModelProviderRecord} (hrecord : record.storable)
    {gateway : OpenAiCompatibleGateway}
    (hgateway : gatewayFor settings record cache = .ok (gateway, cache')) :
    makeGateway settings record = .ok gateway := by
  have hvalue : (AiProviders.gatewayFor settings record cache).map Prod.fst =
      makeGateway settings record :=
    Memo.Coherent.fetch_value (fun _ _ hs hs' => makeGateway_fingerprint hsha hs hs') hrecord h
  rw [hgateway] at hvalue
  exact hvalue.symm

theorem Kept.next {cache cache' : GatewayCache} (h : Kept settings cache)
    {record : AiModelProviderRecord} (hrecord : record.storable) {gateway : OpenAiCompatibleGateway}
    (hgateway : AiProviders.gatewayFor settings record cache = .ok (gateway, cache')) :
    Kept settings cache' :=
  Memo.Coherent.fetch hrecord h hgateway

/-! ### Credentials -/

/-- A sealed credential is read back. -/
theorem credential_sealed {seed : Nat} {apiKey : Option Text} {record : AiModelProviderRecord}
    (h : sealApiKey settings seed apiKey = .ok record.apiKeyCiphertext) :
    credential settings record = .ok apiKey := by
  cases apiKey with
  | none =>
    have hnone : none = record.apiKeyCiphertext := Except.ok.inj h
    rw [credential, ← hnone]
    rfl
  | some secret =>
    simp only [sealApiKey, bind_eq_ok, found_eq_ok, pure_eq_ok] at h
    obtain ⟨material, hmaterial, hcipher⟩ := h
    have hprefix : ciphertextPrefix <+: encrypt settings seed material secret :=
      List.prefix_append _ _
    have hgiven : given (some (encrypt settings seed material secret)) =
        some (encrypt settings seed material secret) := by
      rw [given, Option.filter_some, if_pos]
      exact decide_eq_true (List.append_ne_nil_of_left_ne_nil (by decide) _)
    have hdecrypt : decrypt settings material (encrypt settings seed material secret) =
        .ok secret := by
      rw [decrypt, ensure_true hprefix, encrypt, List.drop_left, settings.fernet.decrypt_encrypt]
      rfl
    simp only [credential, ← hcipher, hgiven, hmaterial, found, hdecrypt, ok_bind]
    rfl

/-- The credential that an update gives to its row, if it gives one. -/
def AiModelProviderUpdate.gives (payload : AiModelProviderUpdate) : Option (Option Text) :=
  if payload.apiKey ≠ none then some payload.apiKey
  else if payload.clearApiKey = true then some none
  else none

/-- The credential that a transaction gives to a row. -/
def ProviderTransaction.gives (id : UUID) : ProviderTransaction → Option (Option Text)
  | .creating payload record _ => if record.id = id then some payload.apiKey else none
  | .updating .. => none
  | .saving payload record _ => if record.id = id then payload.gives else none

/-- The transaction that a step commits. -/
def committed (e : System.Event ProviderState ProviderAction) : Option ProviderTransaction :=
  match e.action with
  | .commit index => e.before.transactions[index]?
  | _ => none

/-- The credential that the requests have given to a row, the last one first. -/
def lastCredential (id : UUID) : List (System.Event ProviderState ProviderAction) → Option Text
  | [] => none
  | e :: h => ((committed e).bind (·.gives id)).getD (lastCredential id h)

theorem credential_update {seed : Nat} {payload : AiModelProviderUpdate} {actorId : UUID}
    {loaded : AiModelProviderRecord} {ciphertext : Option Text}
    (h : sealApiKey settings seed payload.apiKey = .ok ciphertext) :
    credential settings (payload.record actorId loaded ciphertext) =
      payload.gives.elim (credential settings loaded) .ok := by
  rw [AiModelProviderUpdate.gives]
  by_cases hkey : payload.apiKey ≠ none
  · have hnext : (payload.record actorId loaded ciphertext).apiKeyCiphertext = ciphertext :=
      if_pos hkey
    rw [if_pos hkey]
    exact credential_sealed (h.trans (congrArg _ hnext.symm))
  · by_cases hclear : payload.clearApiKey = true
    · have hnext : (payload.record actorId loaded ciphertext).apiKeyCiphertext = none :=
        (if_neg hkey).trans (if_pos hclear)
      rw [if_neg hkey, if_pos hclear, credential, hnext]
      rfl
    · have hnext : (payload.record actorId loaded ciphertext).apiKeyCiphertext =
          loaded.apiKeyCiphertext := (if_neg hkey).trans (if_neg hclear)
      rw [if_neg hkey, if_neg hclear, credential, hnext]
      rfl

/-! ### What a commit does -/

/-- The row that a transaction writes. -/
def ProviderTransaction.record? : ProviderTransaction → Option AiModelProviderRecord
  | .creating _ record _ | .saving _ record _ => some record
  | .updating .. => none

variable {providers providers' : ProviderTable} {transaction : ProviderTransaction}

theorem mem_clearDefaults {cleared : List UUID} {row : AiModelProviderRecord} :
    row ∈ clearDefaults cleared providers ↔
      ∃ old ∈ providers, (if old.id ∈ cleared then { old with isDefault := false } else old) = row := by
  rw [clearDefaults, Table.mem_modifyWhere]
  simp only [decide_eq_true_eq]

/-- A commit writes its row, and all it does to other rows is that some are no longer the default. -/
structure Commits (transaction : ProviderTransaction) (record : AiModelProviderRecord)
    (providers providers' : ProviderTable) : Prop where
  own : transaction.record? = some record
  storable : record.storable
  rows : ∀ row ∈ providers', row = record ∨ row.id ≠ record.id ∧
    ∃ old ∈ providers, row = old ∨ row = { old with isDefault := false }
  single : ∀ row ∈ providers', row.isDefault = true → record.isDefault = true → row = record
  unlocked : ∀ row ∈ providers, row.id ∉ transaction.locks → row ∈ providers'

theorem cleared_row {cleared : List UUID} {row : AiModelProviderRecord}
    (h : row ∈ clearDefaults cleared providers) :
    ∃ old ∈ providers, row = old ∨ row = { old with isDefault := false } := by
  obtain ⟨old, hold, rfl⟩ := mem_clearDefaults.mp h
  refine ⟨old, hold, ?_⟩
  split
  · exact .inr rfl
  · exact .inl rfl

theorem mem_clearDefaults_of_not_mem {cleared : List UUID} {row : AiModelProviderRecord}
    (h : row ∈ providers) (hlock : row.id ∉ cleared) : row ∈ clearDefaults cleared providers :=
  mem_clearDefaults.mpr ⟨row, h, if_neg hlock⟩

theorem commit_spec (h : transaction.commit providers = .ok providers') :
    ∃ record, Commits transaction record providers providers' := by
  cases transaction with
  | updating payload actorId loaded => cases h
  | creating payload record cleared =>
    simp only [ProviderTransaction.commit, bind_eq_ok, ensure_eq_ok, found_eq_ok] at h
    obtain ⟨-, hstorable, -, hfits, hinsert⟩ := h
    have hfresh := (Table.insert?_eq_some.mp hinsert).1
    refine ⟨record, rfl, hstorable, fun row hrow => ?_, fun row hrow hdefault hdefault' => ?_,
      fun row hrow hlock => ?_⟩
    · rcases (Table.mem_insert? hinsert).mp hrow with hrow | rfl
      · exact .inr ⟨hfresh row hrow, cleared_row hrow⟩
      · exact .inl rfl
    · rcases (Table.mem_insert? hinsert).mp hrow with hrow | rfl
      · exact absurd ⟨hdefault, hdefault'⟩ (hfits row hrow (hfresh row hrow)).2
      · rfl
    · exact (Table.mem_insert? hinsert).mpr (.inl (mem_clearDefaults_of_not_mem hrow hlock))
  | saving payload record cleared =>
    simp only [ProviderTransaction.commit, bind_eq_ok, ensure_eq_ok, pure_eq_ok] at h
    obtain ⟨-, hstorable, -, hfits, rfl⟩ := h
    have hrows : ∀ row ∈ (clearDefaults cleared providers).modify record.id
        (fun row => { record with id := row.id }), row = record ∨ row.id ≠ record.id ∧
          row ∈ clearDefaults cleared providers := by
      intro row hrow
      obtain ⟨old, hold, rfl⟩ := Table.mem_modify.mp hrow
      split
      · rename_i hid
        exact .inl (by rw [hid])
      · rename_i hid
        exact .inr ⟨hid, hold⟩
    refine ⟨record, rfl, hstorable, fun row hrow => ?_, fun row hrow hdefault hdefault' => ?_,
      fun row hrow hlock => ?_⟩
    · rcases hrows row hrow with rfl | ⟨hid, hold⟩
      · exact .inl rfl
      · exact .inr ⟨hid, cleared_row hold⟩
    · rcases hrows row hrow with rfl | ⟨hid, hold⟩
      · rfl
      · exact absurd ⟨hdefault, hdefault'⟩ (hfits row hold hid).2
    · obtain ⟨hid, hcleared⟩ := not_or.mp (mt List.mem_cons.mpr hlock)
      exact Table.mem_modify.mpr ⟨row, mem_clearDefaults_of_not_mem hrow hcleared, if_neg hid⟩

/-! ### The invariant -/

/-- What a transaction knows as long as it holds its locks. -/
def ProviderTransaction.Holds (settings : Settings) (providers : ProviderTable) :
    ProviderTransaction → Prop
  | .creating payload record _ =>
    credential settings record = .ok payload.apiKey ∧
      (record.isDefault = true → record.status = .active)
  | .updating _ _ loaded => loaded ∈ providers
  | .saving payload record _ => ∃ loaded ∈ providers, loaded.id = record.id ∧
      credential settings record = payload.gives.elim (credential settings loaded) .ok ∧
      (record.isDefault = true → record.status = .active)

/-- It goes on knowing this while its rows stay. -/
theorem ProviderTransaction.Holds.frame (h : transaction.Holds settings providers)
    (hrows : ∀ row ∈ providers, row.id ∈ transaction.locks → row ∈ providers') :
    transaction.Holds settings providers' := by
  cases transaction with
  | creating payload record cleared => exact h
  | updating payload actorId loaded => exact hrows loaded h List.mem_cons_self
  | saving payload record cleared =>
    obtain ⟨loaded, hloaded, hid, hrest⟩ := h
    exact ⟨loaded, hrows loaded hloaded (hid ▸ List.mem_cons_self), hid, hrest⟩

structure Consistent (settings : Settings)
    (h : List (System.Event ProviderState ProviderAction)) (s : ProviderState) : Prop where
  storable : ∀ row ∈ s.providers, row.storable
  active : ∀ row ∈ s.providers, row.isDefault = true → row.status = .active
  single : ∀ row ∈ s.providers, ∀ row' ∈ s.providers, row.isDefault = true →
    row'.isDefault = true → row = row'
  disjoint : s.transactions.Pairwise fun t t' => List.Disjoint t.locks t'.locks
  holds : ∀ t ∈ s.transactions, t.Holds settings s.providers
  credentials : ∀ row ∈ s.providers, credential settings row = .ok (lastCredential row.id h)
  kept : ∀ process, Kept settings (s.caches process)

/-! ### What a transaction that begins or goes on knows -/

theorem beginCreate_holds {payload : AiModelProviderCreate} {id actorId : UUID} {seed : Nat}
    (h : beginCreate settings payload id actorId seed providers = .ok transaction) :
    transaction.Holds settings providers := by
  simp only [beginCreate, bind_eq_ok, pure_eq_ok] at h
  obtain ⟨-, -, ciphertext, hseal, rfl⟩ := h
  exact ⟨credential_sealed hseal, payload.default_active⟩

theorem beginUpdate_holds {payload : AiModelProviderUpdate} {providerId actorId : UUID}
    (h : beginUpdate payload providerId actorId providers = .ok transaction) :
    transaction.Holds settings providers := by
  simp only [beginUpdate, bind_eq_ok, found_eq_ok, pure_eq_ok] at h
  obtain ⟨record, hrecord, rfl⟩ := h
  exact Table.mem_of_get? hrecord

theorem continueUpdate_holds {seed : Nat} {next : ProviderTransaction}
    (h : continueUpdate settings seed providers transaction = .ok next)
    (hholds : transaction.Holds settings providers) : next.Holds settings providers := by
  cases transaction with
  | creating payload record cleared => cases h
  | saving payload record cleared => cases h
  | updating payload actorId loaded =>
    simp only [continueUpdate, bind_eq_ok, ensure_eq_ok] at h
    obtain ⟨-, -, -, -, ciphertext, hseal, h⟩ := h
    have hdefault : (payload.record actorId loaded ciphertext).isDefault = true →
        (payload.record actorId loaded ciphertext).status = .active := by
      intro hdefault
      by_contra hstatus
      have hnext : (payload.record actorId loaded ciphertext).isDefault = false := if_neg hstatus
      rw [hnext] at hdefault
      cases hdefault
    have hsaved : ∀ cleared, next = .saving payload (payload.record actorId loaded ciphertext)
        cleared → next.Holds settings providers := by
      rintro cleared rfl
      exact ⟨loaded, hholds, rfl, credential_update hseal, hdefault⟩
    split at h
    · simp only [bind_eq_ok, ensure_eq_ok, pure_eq_ok] at h
      obtain ⟨-, -, -, -, hnext⟩ := h
      exact hsaved _ hnext.symm
    · exact hsaved _ (pure_eq_ok.mp h).symm

/-! ### Steps -/

variable {s s' : ProviderState} {h : List (System.Event ProviderState ProviderAction)}
  {action : ProviderAction}

/-- A step that commits nothing gives no credential. -/
theorem lastCredential_other (hcommit : ∀ index, action ≠ .commit index) (id : UUID) :
    lastCredential id (⟨s, action, s'⟩ :: h) = lastCredential id h := by
  have hnone : committed ⟨s, action, s'⟩ = none := by
    cases action with
    | commit index => exact absurd rfl (hcommit index)
    | _ => rfl
  rw [lastCredential, hnone]
  rfl

theorem lastCredential_commit {index : Nat} (ht : s.transactions[index]? = some transaction)
    (id : UUID) : lastCredential id (⟨s, .commit index, s'⟩ :: h) =
      (transaction.gives id).getD (lastCredential id h) := by
  have hcommitted : committed ⟨s, .commit index, s'⟩ = some transaction := ht
  rw [lastCredential, hcommitted]
  rfl

/-- Some transactions have ended, and one has begun or gone on. -/
theorem Consistent.add (hc : Consistent settings h s) (hcommit : ∀ index, action ≠ .commit index)
    {transactions : List ProviderTransaction} (hsub : transactions.Sublist s.transactions)
    (hholds : transaction.Holds settings s.providers)
    (hadd : { s with transactions := transactions }.add transaction = .ok s') :
    Consistent settings (⟨s, action, s'⟩ :: h) s' := by
  simp only [ProviderState.add, bind_eq_ok, ensure_eq_ok, pure_eq_ok] at hadd
  obtain ⟨-, hunlocked, rfl⟩ := hadd
  refine ⟨hc.storable, hc.active, hc.single, ?_, ?_, fun row hrow => ?_, hc.kept⟩
  · refine List.pairwise_append.mpr ⟨hc.disjoint.sublist hsub, List.pairwise_singleton _ _, ?_⟩
    intro t ht t' ht' id hid hid'
    rw [List.mem_singleton.mp ht'] at hid'
    exact hunlocked t ht id hid' hid
  · intro t ht
    rcases List.mem_append.mp ht with ht | ht
    · exact hc.holds t (hsub.subset ht)
    · exact List.mem_singleton.mp ht ▸ hholds
  · rw [lastCredential_other hcommit]
    exact hc.credentials row hrow

/-- A transaction is disjoint from all others. -/
theorem disjoint_eraseIdx {transactions : List ProviderTransaction} {index : Nat}
    (hdisjoint : transactions.Pairwise fun t t' => List.Disjoint t.locks t'.locks)
    (ht : transactions[index]? = some transaction) :
    ∀ t ∈ transactions.eraseIdx index, List.Disjoint transaction.locks t.locks := by
  obtain ⟨hlt, hget⟩ := List.getElem?_eq_some_iff.mp ht
  have hsplit : transactions = transactions.take index ++ transaction ::
      transactions.drop (index + 1) := by
    rw [← hget, List.cons_getElem_drop_succ, List.take_append_drop]
  rw [hsplit, List.pairwise_middle fun {_ _} hd => List.disjoint_symm hd] at hdisjoint
  intro t ht
  rw [List.eraseIdx_eq_take_drop_succ] at ht
  exact (List.pairwise_cons.mp hdisjoint).1 t ht

theorem Consistent.commit (hc : Consistent settings h s) {index : Nat}
    (ht : s.transactions[index]? = some transaction)
    (hcommit : transaction.commit s.providers = .ok providers') :
    Consistent settings (⟨s, .commit index, { s with
        providers := providers', transactions := s.transactions.eraseIdx index }⟩ :: h)
      { s with providers := providers', transactions := s.transactions.eraseIdx index } := by
  obtain ⟨record, hspec⟩ := commit_spec hcommit
  have hmem : transaction ∈ s.transactions := List.mem_of_getElem? ht
  have hheld := hc.holds transaction hmem
  have hactive : record.isDefault = true → record.status = .active := by
    have hown := hspec.own
    cases transaction with
    | updating payload actorId loaded => cases hown
    | creating payload row cleared => exact Option.some.inj hown ▸ hheld.2
    | saving payload row cleared =>
      obtain ⟨loaded, -, -, -, hactive⟩ := hheld
      exact Option.some.inj hown ▸ hactive
  -- what becomes of a row that is not the transaction's own
  have hother : ∀ {row : AiModelProviderRecord} {p : AiModelProviderRecord → Prop}, p record →
      (∀ old ∈ s.providers, row.id ≠ record.id → row = old ∨ row = { old with isDefault := false } →
        p row) → row ∈ providers' → p row := by
    intro row p hrecord hold hrow
    rcases hspec.rows row hrow with rfl | ⟨hid, old, hmem, heq⟩
    · exact hrecord
    · exact hold old hmem hid heq
  refine ⟨fun row => hother hspec.storable fun old hold _ heq => ?_,
    fun row => hother (p := fun row => row.isDefault = true → row.status = .active) hactive
      fun old hold _ heq => ?_, fun row hrow row' hrow' hd hd' => ?_,
    hc.disjoint.sublist (List.eraseIdx_sublist _ _), fun t ht' => ?_, fun row hrow => ?_, hc.kept⟩
  · rcases heq with rfl | rfl
    · exact hc.storable row hold
    · exact hc.storable old hold
  · rcases heq with rfl | rfl
    · exact hc.active row hold
    · intro hdefault
      cases hdefault
  · by_cases hdefault : record.isDefault = true
    · rw [hspec.single row hrow hd hdefault, hspec.single row' hrow' hd' hdefault]
    · have hstays : ∀ row ∈ providers', row.isDefault = true → row ∈ s.providers := by
        intro row hrow hd
        rcases hspec.rows row hrow with rfl | ⟨-, old, hold, rfl | rfl⟩
        · exact absurd hd hdefault
        · exact hold
        · cases hd
      exact hc.single row (hstays row hrow hd) row' (hstays row' hrow' hd') hd hd'
  · have hothers := disjoint_eraseIdx hc.disjoint ht t ht'
    refine (hc.holds t (List.mem_of_mem_eraseIdx ht')).frame fun row hrow hlock => ?_
    exact hspec.unlocked row hrow fun hlock' => hothers hlock' hlock
  · rw [lastCredential_commit ht]
    rcases hspec.rows row hrow with rfl | ⟨hid, old, hold, heq⟩
    · have hown := hspec.own
      cases transaction with
      | updating payload actorId loaded => cases hown
      | creating payload own cleared =>
        obtain rfl := Option.some.inj hown
        rw [ProviderTransaction.gives, if_pos rfl, hheld.1]
        rfl
      | saving payload own cleared =>
        obtain rfl := Option.some.inj hown
        obtain ⟨loaded, hloaded, hid, hcredential, -⟩ := hheld
        rw [ProviderTransaction.gives, if_pos rfl, hcredential, ← hid, hc.credentials loaded hloaded]
        cases payload.gives <;> rfl
    · have hnone : transaction.gives row.id = none := by
        have hown := hspec.own
        cases transaction with
        | updating payload actorId loaded => rfl
        | creating payload own cleared =>
          exact if_neg fun heq => hid (by rw [← heq, Option.some.inj hown])
        | saving payload own cleared =>
          exact if_neg fun heq => hid (by rw [← heq, Option.some.inj hown])
      rw [hnone]
      rcases heq with rfl | rfl
      · exact hc.credentials row hold
      · exact hc.credentials old hold

theorem consistent (hh : (providerSystem settings).History h s) : Consistent settings h s := by
  refine hh.invariant ?_ ?_
  · rintro s rfl
    refine ⟨?_, ?_, ?_, .nil, ?_, ?_, fun _ => Memo.coherent_empty⟩
    all_goals
      intro _ hmem
      cases hmem
  · intro h s action s' _ hnext hc
    change providerStep settings s action = .ok s' at hnext
    cases action with
    | create payload id actorId seed =>
      simp only [providerStep, bind_eq_ok] at hnext
      obtain ⟨transaction, hbegin, hadd⟩ := hnext
      exact hc.add (by simp) (List.Sublist.refl _) (beginCreate_holds hbegin) hadd
    | update payload providerId actorId =>
      simp only [providerStep, bind_eq_ok] at hnext
      obtain ⟨transaction, hbegin, hadd⟩ := hnext
      exact hc.add (by simp) (List.Sublist.refl _) (beginUpdate_holds hbegin) hadd
    | continueUpdate index seed =>
      simp only [providerStep, bind_eq_ok, found_eq_ok] at hnext
      obtain ⟨transaction, ht, next, hcontinue, hadd⟩ := hnext
      have hheld := hc.holds transaction (List.mem_of_getElem? ht)
      exact hc.add (by simp) (List.eraseIdx_sublist _ _) (continueUpdate_holds hcontinue hheld) hadd
    | commit index =>
      simp only [providerStep, bind_eq_ok, found_eq_ok, pure_eq_ok] at hnext
      obtain ⟨transaction, ht, providers, hcommit, rfl⟩ := hnext
      exact hc.commit ht hcommit
    | abandon index =>
      simp only [providerStep, bind_eq_ok, found_eq_ok, pure_eq_ok] at hnext
      obtain ⟨-, -, rfl⟩ := hnext
      refine ⟨hc.storable, hc.active, hc.single, hc.disjoint.sublist (List.eraseIdx_sublist _ _),
        fun t ht => hc.holds t (List.mem_of_mem_eraseIdx ht), fun row hrow => ?_, hc.kept⟩
      rw [lastCredential_other (by simp)]
      exact hc.credentials row hrow
    | delete providerId =>
      simp only [providerStep, bind_eq_ok, found_eq_ok, ensure_eq_ok, pure_eq_ok] at hnext
      obtain ⟨-, -, -, hunlocked, rfl⟩ := hnext
      have hstays : ∀ row ∈ s.providers.erase providerId, row ∈ s.providers :=
        fun row hrow => (Table.mem_erase.mp hrow).1
      refine ⟨fun row hrow => hc.storable row (hstays row hrow),
        fun row hrow => hc.active row (hstays row hrow),
        fun row hrow row' hrow' => hc.single row (hstays row hrow) row' (hstays row' hrow'),
        hc.disjoint, fun t ht => (hc.holds t ht).frame fun row hrow hlock => ?_,
        fun row hrow => ?_, hc.kept⟩
      · refine Table.mem_erase.mpr ⟨hrow, fun hid => ?_⟩
        exact hunlocked t ht providerId List.mem_cons_self (hid ▸ hlock)
      · rw [lastCredential_other (by simp)]
        exact hc.credentials row (hstays row hrow)
    | gatewayFor process record =>
      simp only [providerStep, bind_eq_ok, ensure_eq_ok, mapError_eq_ok, pure_eq_ok] at hnext
      obtain ⟨-, hstorable, ⟨gateway, cache⟩, hgateway, rfl⟩ := hnext
      refine ⟨hc.storable, hc.active, hc.single, hc.disjoint, hc.holds, fun row hrow => ?_,
        fun other => ?_⟩
      · rw [lastCredential_other (by simp)]
        exact hc.credentials row hrow
      · rcases eq_or_ne other process with rfl | hne
        · simp only [Function.update_self]
          exact (hc.kept other).next hstorable hgateway
        · simp only [Function.update_of_ne hne]
          exact hc.kept other

/-! ### Every run -/

/-- The credential of a row is the one that the requests for it have given last. -/
theorem credential_of_history (hh : (providerSystem settings).History h s)
    {row : AiModelProviderRecord} (hrow : row ∈ s.providers) :
    credential settings row = .ok (lastCredential row.id h) :=
  (consistent hh).credentials row hrow

/-- The gateway is the one of an active row, with the credential that has been given last. -/
structure ServedBy (settings : Settings) (h : List (System.Event ProviderState ProviderAction))
    (s : ProviderState) (row : AiModelProviderRecord) (gateway : OpenAiCompatibleGateway) :
    Prop where
  stored : row ∈ s.providers
  active : row.status = .active
  current : gateway =
    (connectionOf settings row.baseUrl row.model (lastCredential row.id h)).gateway

theorem Consistent.servedBy (hsha : Function.Injective settings.sha256)
    (hc : Consistent settings h s) {cache cache' : GatewayCache} (hkept : Kept settings cache)
    {row : AiModelProviderRecord} (hrow : row ∈ s.providers) (hactive : row.status = .active)
    {gateway : OpenAiCompatibleGateway}
    (hgateway : AiProviders.gatewayFor settings row cache = .ok (gateway, cache')) :
    ServedBy settings h s row gateway := by
  refine ⟨hrow, hactive, ?_⟩
  have hmake := hkept.gatewayFor hsha (hc.storable row hrow) hgateway
  simp only [makeGateway, hc.credentials row hrow, ok_bind, bind_eq_ok, pure_eq_ok] at hmake
  obtain ⟨-, -, hgateway⟩ := hmake
  exact hgateway.symm

/-- What a request for a gateway comes to, whatever has been committed between its two statements and
    before it looks into its process's cache. -/
structure Resolved (settings : Settings) (environmentGateway : Option OpenAiCompatibleGateway)
    (parseUuid : Text → Option UUID) (providerKey : Option Text)
    (first second : List (System.Event ProviderState ProviderAction) × ProviderState)
    (gateway : OpenAiCompatibleGateway) : Prop where
  environment : providerKey = some environmentProviderKey → environmentGateway = some gateway
  chosen : providerKey ≠ some environmentProviderKey → ∀ key ∈ given providerKey,
    ∃ row, parseUuid key = some row.id ∧ ServedBy settings first.1 first.2 row gateway
  default : given providerKey = none → ∀ row ∈ first.2.providers, row.isDefault = true →
    ServedBy settings first.1 first.2 row gateway
  fallback : given providerKey = none → (∀ row ∈ first.2.providers, row.isDefault = false) →
    environmentGateway = some gateway ∨ environmentGateway = none ∧
      ∃ row, ServedBy settings second.1 second.2 row gateway

theorem resolve_current (hsha : Function.Injective settings.sha256)
    {environmentGateway : Option OpenAiCompatibleGateway} {parseUuid : Text → Option UUID}
    {byName : Text → Text → Bool} {providerKey : Option Text}
    {first second : List (System.Event ProviderState ProviderAction) × ProviderState}
    {process : Nat} {gateway : OpenAiCompatibleGateway} {cache' : GatewayCache}
    (hfirst : (providerSystem settings).History first.1 first.2)
    (hsecond : (providerSystem settings).History second.1 second.2)
    (hlast : (providerSystem settings).Reachable s)
    (hresolve : resolve settings environmentGateway parseUuid byName providerKey
      first.2.providers second.2.providers (s.caches process) = .ok (gateway, cache')) :
    Resolved settings environmentGateway parseUuid providerKey first second gateway := by
  obtain ⟨h, hh⟩ := hlast.history
  have hkept := (consistent hh).kept process
  have hc := consistent hfirst
  have hnoKey : providerKey = some environmentProviderKey → given providerKey ≠ none := by
    rintro rfl
    decide
  unfold resolve at hresolve
  split at hresolve
  · rename_i hkey
    refine ⟨fun _ => ?_, fun hne => absurd hkey hne, fun hnone => absurd hnone (hnoKey hkey),
      fun hnone => absurd hnone (hnoKey hkey)⟩
    cases environmentGateway with
    | none => cases hresolve
    | some environment => exact congrArg some (Prod.mk.inj (Except.ok.inj hresolve)).1
  · rename_i hkey
    cases hgiven : given providerKey with
    | some key =>
      simp only [hgiven, bind_eq_ok, found_eq_ok] at hresolve
      obtain ⟨providerId, hparse, row, hrow, hgateway⟩ := hresolve
      have htest := Table.first?_some hrow
      simp only [decide_eq_true_eq] at htest
      obtain ⟨hid, hactive⟩ := htest
      have hsome : given providerKey ≠ none := by
        rw [hgiven]
        exact Option.some_ne_none key
      refine ⟨fun heq => absurd heq hkey, fun _ key' hkey' => ⟨row, ?_, ?_⟩,
        fun hnone => absurd hnone hsome, fun hnone => absurd hnone hsome⟩
      · rw [hgiven] at hkey'
        cases hkey'
        rw [hparse, hid]
      · exact hc.servedBy hsha hkept (Table.mem_of_first? hrow) hactive hgateway
    | none =>
      simp only [hgiven] at hresolve
      refine ⟨fun heq => absurd heq hkey, fun _ key hkey => ?_, fun _ row hrow hd => ?_,
        fun _ hnodefault => ?_⟩
      · rw [hgiven] at hkey
        cases hkey
      · have hactive := hc.active row hrow hd
        have hfound : first.2.providers.first?
            (fun row => row.status = .active ∧ row.isDefault = true) = some row :=
          Table.first?_eq_some_of_unique hrow (decide_eq_true ⟨hactive, hd⟩)
            fun other hother hdefault => (hc.single other hother row hrow
              (of_decide_eq_true hdefault).2 hd)
        simp only [hfound] at hresolve
        exact hc.servedBy hsha hkept hrow hactive hresolve
      · have hfound : first.2.providers.first?
            (fun row => row.status = .active ∧ row.isDefault = true) = none := by
          refine Table.first?_eq_none.mpr fun row hrow hdefault => ?_
          have hd := (of_decide_eq_true hdefault).2
          rw [hnodefault row hrow] at hd
          cases hd
        simp only [hfound] at hresolve
        cases environmentGateway with
        | some environment =>
          exact .inl (congrArg some (Prod.mk.inj (Except.ok.inj hresolve)).1)
        | none =>
          simp only [bind_eq_ok, found_eq_ok] at hresolve
          obtain ⟨row, hrow, hgateway⟩ := hresolve
          have hmem := List.mem_of_mem_head? (Option.mem_def.mpr hrow)
          rw [List.mem_insertionSort, List.mem_filter] at hmem
          exact .inr ⟨rfl, row, (consistent hsecond).servedBy hsha hkept hmem.1
            (of_decide_eq_true hmem.2) hgateway⟩

namespace ProviderExample

/-- Encryption that hides nothing, but is undone by decryption. -/
def openFernet : Fernet where
  Key := Unit
  key _ := ()
  encrypt _ _ secret := secret
  decrypt _ token := some token
  decrypt_encrypt _ _ _ := rfl

def plainSettings : Settings where
  aiProviderEncryptionKey := some "material".toList
  aiApiKey := none
  aiTimeoutSeconds := "60.0".toList
  aiAnalysisMaxTokens := "16384".toList
  aiThinkingBudget := "12288".toList
  aiMaxConcurrency := "1".toList
  aiAllowInsecureHttp := false
  fernet := openFernet
  sha256 := id
  locations _ := true
  lower host := host.map Char.toLower

def firstKey : Text := "first".toList

def secondKey : Text := "second".toList

def qwen : AiModelProviderCreate where
  name := "qwen".toList
  baseUrl := "https://models".toList
  model := "qwen".toList
  apiKey := some firstKey
  status := .active
  isDefault := true
  apiKey_ne_nil := by decide
  default_active _ := rfl

def newKey : AiModelProviderUpdate where
  name := none
  baseUrl := none
  model := none
  apiKey := some secondKey
  clearApiKey := false
  status := none
  isDefault := none
  apiKey_ne_nil := by decide
  not_both _ := rfl
  default_active h := nomatch h

/-- A gateway is made and kept, and then the key is replaced. -/
def replaceKey : List ProviderAction :=
  [.create qwen 1 100 0, .commit 0,
    .gatewayFor 0 (qwen.record 1 100 (some (ciphertextPrefix ++ firstKey))),
    .update newKey 1 100, .continueUpdate 0 0, .commit 0]

end ProviderExample

open ProviderExample in
/-- The second key is the one that has been given last. -/
theorem credential_of_history_replaced :
    ∃ h s, (providerSystem plainSettings).History h s ∧ ∃ row ∈ s.providers,
      lastCredential row.id h = some secondKey ∧
        credential plainSettings row = .ok (lastCredential row.id h) := by
  have hrun : Traces (providerStep plainSettings) ProviderState.init replaceKey fun h s =>
      ∃ row ∈ s.providers.rows, lastCredential row.id h = some secondKey := by decide +kernel
  obtain ⟨h, s, hh, row, hrow, hlast⟩ : ∃ h s, (providerSystem plainSettings).History h s ∧ _ :=
    hrun.exists_history rfl
  exact ⟨h, s, hh, row, hrow, hlast, credential_of_history hh hrow⟩

open ProviderExample in
/-- The process still keeps the gateway with the first key, but it is not the one that is used. -/
theorem resolve_current_replaced :
    ∃ h s gateway cache', (providerSystem plainSettings).History h s ∧
      (s.caches 0 1).map (·.2.apiKey) = some (some firstKey) ∧
      resolve plainSettings none (fun _ => none) (fun _ _ => true) none s.providers s.providers
        (s.caches 0) = .ok (gateway, cache') ∧ gateway.apiKey = some secondKey ∧
      Resolved plainSettings none (fun _ => none) none (h, s) (h, s) gateway := by
  have hrun : Traces (providerStep plainSettings) ProviderState.init replaceKey fun _ s =>
      (s.caches 0 1).map (·.2.apiKey) = some (some firstKey) ∧
        (resolve plainSettings none (fun _ => none) (fun _ _ => true) none s.providers s.providers
          (s.caches 0)).toOption.map (·.1.apiKey) = some (some secondKey) := by
    decide +kernel
  obtain ⟨h, s, hh, hkept, hresolve⟩ : ∃ h s, (providerSystem plainSettings).History h s ∧ _ :=
    hrun.exists_history rfl
  obtain ⟨⟨gateway, cache'⟩, hok, hkey⟩ := Option.map_eq_some_iff.mp hresolve
  exact ⟨h, s, gateway, cache', hh, hkept, ok_of_toOption hok, hkey,
    resolve_current (fun _ _ hbytes => hbytes) hh hh hh.reachable (ok_of_toOption hok)⟩

end TestOps.AiProviders
