import TestOps.ControlPlane.VerifierKeys
import TestOps.Invariants.CronCalendar

/-! What is reported of the verifier keys, and what their authentication does with them. A key is
    reported to accept exactly when it does, and the digest of a configuration tells everything about
    it but the order of its keys:

      keys in any order ──sort──▸ document ──▸ text ──▸ bytes ──▸ digest
                                  each step can be undone -/

namespace TestOps.VerifierKeys

open Checked Grouping

variable {sha256 : Bytes → Text} {settings settings' : Settings sha256}
  {key key' : SupplyChainVerifierPublicKey} {t warningUntil : Instant}
  {snapshot : SupplyChainKeyReadinessSnapshot}

/-! ### Times come back -/

theorem pad_digits {width n : Nat} {c : Char} (h : c ∈ pad width n) : c.isDigit = true := by
  rcases List.mem_append.mp h with h | h
  · rw [List.eq_of_mem_replicate h]
    decide
  · exact Nat.isDigit_of_mem_toDigits (by decide) (by decide) h

theorem pad_injective {width n m : Nat} (h : pad width n = pad width m) : n = m := by
  have hzeros : ∀ (k : Nat) (cs : Text), Nat.ofDigitChars 10 (List.replicate k '0' ++ cs) 0 =
      Nat.ofDigitChars 10 cs 0 := by
    intro k cs
    induction k with
    | zero => rfl
    | succ k ih =>
      rw [List.replicate_succ, List.cons_append, Nat.ofDigitChars_cons]
      exact ih
  have hvalue : ∀ n, Nat.ofDigitChars 10 (pad width n) 0 = n := by
    intro n
    rw [pad, hzeros, Nat.ofDigitChars_toDigits (by decide) (by decide)]
  rw [← hvalue n, h, hvalue]

/-- A number ends where a character follows that is no digit. -/
theorem pad_append_inj {width n m : Nat} {c : Char} {rest rest' : Text} (hc : c.isDigit = false)
    (h : pad width n ++ c :: rest = pad width m ++ c :: rest') : n = m ∧ rest = rest' := by
  have hdigits : ∀ k, ∀ d ∈ pad width k, d.isDigit = true := fun k d => pad_digits
  have hstop : ∀ k text, (pad width k ++ c :: text).takeWhile Char.isDigit = pad width k ∧
      (pad width k ++ c :: text).dropWhile Char.isDigit = c :: text :=
    fun k text => Url.takeWhile_append_stop (hdigits k) hc
  obtain ⟨htake, hdrop⟩ := hstop n rest
  obtain ⟨htake', hdrop'⟩ := hstop m rest'
  rw [h, htake'] at htake
  rw [h, hdrop'] at hdrop
  exact ⟨(pad_injective htake).symm, (List.cons.inj hdrop).2.symm⟩

theorem dayOfYear_le {day year : Int} {dayOfYear : Nat} (h : OnDay day year dayOfYear) :
    dayOfYear ≤ 365 := by
  have hspan := (daysBefore_succ year).2
  have heq := h.eq
  have hwithin := h.within
  omega

/-- The day of the year, by the month and the day of the month. -/
def dayOfYearOf (date : Nat × Nat) : Nat :=
  (153 * (if 3 ≤ date.1 then date.1 - 3 else date.1 + 9) + 2) / 5 + date.2 - 1

theorem dayOfYearOf_monthAndDayOf : ∀ d ≤ 365, dayOfYearOf (monthAndDayOf d) = d := by
  decide +kernel

/-- A day is known by its year, its month and its day of the month. -/
theorem day_inj {day day' : Int} (hyear : yearOf day = yearOf day')
    (hdate : monthAndDay day = monthAndDay day') : day = day' := by
  obtain ⟨dayOfYear, hday, hmonth⟩ := onDay_yearOfEra day
  obtain ⟨dayOfYear', hday', hmonth'⟩ := onDay_yearOfEra day'
  have hsame : dayOfYear = dayOfYear' := by
    rw [← dayOfYearOf_monthAndDayOf _ (dayOfYear_le hday), ← hmonth, hdate, hmonth',
      dayOfYearOf_monthAndDayOf _ (dayOfYear_le hday')]
  have hmarch : 400 * ((day + 719468) / 146097) + (yearOfEra day : Int) =
      400 * ((day' + 719468) / 146097) + yearOfEra day' := by
    rw [yearOf, yearOf, hdate] at hyear
    omega
  have heq := hday.eq
  have heq' := hday'.eq
  rw [hmarch, hsame] at heq
  omega

theorem yearOf_nonneg {day : Int} (h : -719162 ≤ day) : 0 ≤ yearOf day := by
  rw [yearOf]
  split <;> omega

theorem formatTimestamp_inj {t t' : Int} (ht : IsWhole t) (ht' : IsWhole t')
    (h : formatTimestamp t = formatTimestamp t') : t = t' := by
  have hday : ∀ {t : Int}, IsWhole t → -719162 ≤ t / cronMicrosPerDay := by
    intro t ht
    exact (Int.le_ediv_iff_mul_le (by decide)).mpr ht.1
  simp only [formatTimestamp] at h
  obtain ⟨hyear, h⟩ := pad_append_inj (by decide) h
  obtain ⟨hmonth, h⟩ := pad_append_inj (by decide) h
  obtain ⟨hdate, h⟩ := pad_append_inj (by decide) h
  obtain ⟨hhour, h⟩ := pad_append_inj (by decide) h
  obtain ⟨hminute, h⟩ := pad_append_inj (by decide) h
  obtain ⟨hsecond, -⟩ := pad_append_inj (by decide) h
  have hyears : yearOf (t / cronMicrosPerDay) = yearOf (t' / cronMicrosPerDay) := by
    rw [← Int.toNat_of_nonneg (yearOf_nonneg (hday ht)), hyear,
      Int.toNat_of_nonneg (yearOf_nonneg (hday ht'))]
  have hdays := day_inj hyears (Prod.ext hmonth hdate)
  have hwhole : (t : Int) % 1000000 = 0 := ht.2.2
  have hwhole' : (t' : Int) % 1000000 = 0 := ht'.2.2
  have hmicros : cronMicrosPerDay = 86400000000 := by decide
  rw [hmicros] at hdays hhour hminute hsecond
  generalize hpart : t % 86400000000 = part at hhour hminute hsecond
  generalize hpart' : t' % 86400000000 = part' at hhour hminute hsecond
  have hsame : (part / 1000000).toNat = (part' / 1000000).toNat := by
    clear hdays hpart hpart'
    generalize (part / 1000000).toNat = second at *
    generalize (part' / 1000000).toNat = second' at *
    omega
  omega

theorem canonicalTimestamp_inj {time time' : Option { t : Instant // IsWhole t }}
    (h : canonicalTimestamp time = canonicalTimestamp time') : time = time' := by
  cases time with
  | none =>
    cases time' with
    | none => rfl
    | some t' => cases h
  | some t =>
    cases time' with
    | none => cases h
    | some t' =>
      simp only [canonicalTimestamp, Json.string.injEq, String.ofList_inj] at h
      exact congrArg some (Subtype.ext (formatTimestamp_inj t.property t'.property h))

/-! ### Configurations come back -/

theorem keyDocument_injective (hsha : Function.Injective sha256) :
    Function.Injective (keyDocument sha256) := by
  intro key key' h
  have hvalues := congrArg (List.map Prod.snd) (Json.object.inj h)
  simp only [List.map_cons, List.map_nil, List.cons.injEq, Json.string.injEq, and_true] at hvalues
  obtain ⟨hid, hfingerprint, hafter, hbefore, hrevoked, hverifier, hworkload⟩ := hvalues
  have hfingerprint := List.append_cancel_left (String.ofList_injective hfingerprint)
  have hpublic := hsha hfingerprint
  replace hafter := canonicalTimestamp_inj hafter
  replace hbefore := canonicalTimestamp_inj hbefore
  replace hrevoked := canonicalTimestamp_inj hrevoked
  obtain ⟨credentialId, verifier, workloadIdentity, publicKey, notBefore, notAfter, revokedAt,
    named, ordered⟩ := key
  obtain ⟨credentialId', verifier', workloadIdentity', publicKey', notBefore', notAfter',
    revokedAt', named', ordered'⟩ := key'
  simp only at hid hpublic hafter hbefore hrevoked hverifier hworkload
  subst hid hpublic hafter hbefore hrevoked hverifier hworkload
  rfl

theorem utf8_injective {text text' : Text} (h : text.flatMap String.utf8EncodeChar =
    text'.flatMap String.utf8EncodeChar) : text = text' := by
  have hdecode := Utf8.Decoder.bytes_utf8 text
  rw [h, Utf8.Decoder.bytes_utf8] at hdecode
  exact (Prod.mk.inj hdecode).2.symm

theorem toDigits_inj {n m : Nat} (h : Nat.toDigits 10 n = Nat.toDigits 10 m) : n = m :=
  @pad_injective 0 n m (by simpa [pad] using h)

/-- The digest tells everything about a configuration but the order of its parts. -/
theorem configurationDigest_inj (hsha : Function.Injective sha256)
    (h : settings.configurationDigest = settings'.configurationDigest) :
    settings.publicKeys.Perm settings'.publicKeys ∧
      (settings.credentials.map (·.credentialId)).Perm
        (settings'.credentials.map (·.credentialId)) ∧
      settings.keyExpiryWarningDays = settings'.keyExpiryWarningDays ∧
      settings.allowLegacyHmac = settings'.allowLegacyHmac := by
  have hbytes := hsha (List.append_cancel_left h)
  have hdocument := Json.render_injective (utf8_injective hbytes)
  simp only [Settings.document, Json.object.injEq, List.cons.injEq, Prod.mk.injEq, true_and,
    and_true, Json.array.injEq, Json.number.injEq, Json.Number.mk.injEq, Json.bool.injEq]
    at hdocument
  obtain ⟨hkeys, hdays, hids, hlegacy⟩ := hdocument
  have hkeys := (keyDocument_injective hsha).list_map hkeys
  have hstring : Function.Injective Json.string := fun _ _ heq => Json.string.inj heq
  have hids := hstring.list_map hids
  refine ⟨?_, ?_, toDigits_inj hdays, hlegacy⟩
  · have hperm := @sortBy_perm _ _ _ SupplyChainVerifierPublicKey.place settings.publicKeys
    rw [hkeys] at hperm
    exact hperm.symm.trans sortBy_perm
  · have hperm := @sortBy_perm _ _ _ id (settings.credentials.map
      SupplyChainVerifierCredential.credentialId)
    rw [hids] at hperm
    exact hperm.symm.trans sortBy_perm

theorem publicKeys_ids : (settings.publicKeys.map (·.credentialId)).Nodup :=
  (List.nodup_append.mp settings.credentialIds).1

theorem place_inj : ∀ key ∈ settings.publicKeys, ∀ key' ∈ settings.publicKeys,
    key.place = key'.place → key = key' := by
  intro key hkey key' hkey' heq
  have hid : key.credentialId = key'.credentialId := congrArg (fun place => (ofLex place).2) heq
  exact List.inj_on_of_nodup_map publicKeys_ids hkey hkey' hid

theorem document_perm (hkeys : settings.publicKeys.Perm settings'.publicKeys)
    (hids : (settings.credentials.map (·.credentialId)).Perm
      (settings'.credentials.map (·.credentialId)))
    (hdays : settings.keyExpiryWarningDays = settings'.keyExpiryWarningDays)
    (hlegacy : settings.allowLegacyHmac = settings'.allowLegacyHmac) :
    settings.document = settings'.document := by
  have hsorted := sortBy_eq_of_perm place_inj hkeys
  have hsortedIds : sortBy id (settings.credentials.map (·.credentialId)) =
      sortBy id (settings'.credentials.map (·.credentialId)) :=
    sortBy_eq_of_perm (fun _ _ _ _ heq => heq) hids
  simp only [Settings.document, hsorted, hsortedIds, hdays, hlegacy]

/-! ### Readiness of keys -/

/-- A key is reported to accept exactly when it does. -/
theorem accepting_keyStatus : (keyStatus key t warningUntil).accepting = key.accepts t t := by
  rw [keyStatus, SupplyChainVerifierPublicKey.accepts]
  simp only [Bool.or_self]
  by_cases hrevoked : key.revokedAt.any (fun moment => decide (moment.val ≤ t)) = true
  · rw [if_pos hrevoked, if_pos hrevoked]
    simp [VerifierKeyStatus.accepting]
  · rw [if_neg hrevoked, if_neg hrevoked]
    by_cases hexpired : key.notAfter.any (fun stop => decide (stop.val ≤ t)) = true
    · rw [if_pos hexpired, if_pos hexpired]
      simp [VerifierKeyStatus.accepting]
    · rw [if_neg hexpired, if_neg hexpired]
      by_cases hfuture : key.notBefore.any (fun start => decide (t < start.val)) = true
      · rw [if_pos hfuture, if_pos hfuture]
        rfl
      · rw [if_neg hfuture, if_neg hfuture]
        split
        · rfl
        · rfl

/-! ### The snapshot -/

theorem zip_map_self {α β : Type} (f : α → β) (l : List α) :
    l.zip (l.map f) = l.map fun a => (a, f a) := by
  induction l with
  | nil => rfl
  | cons a l ih => rw [List.map_cons, List.zip_cons_cons, ih, List.map_cons]

/-- How many keys are reported with a status. -/
def SupplyChainKeyReadinessSnapshot.sized (snapshot : SupplyChainKeyReadinessSnapshot)
    (status : VerifierKeyStatus) : Nat := snapshot.keys.countP fun item => decide (item.status = status)

/-- Two different elements that are counted. -/
theorem two_le_countP {α : Type} {l : List α} (hnodup : l.Nodup) {p : α → Bool} :
    2 ≤ l.countP p ↔ ∃ a ∈ l, ∃ b ∈ l, a ≠ b ∧ p a = true ∧ p b = true := by
  rw [List.countP_eq_length_filter]
  have hfilter := hnodup.filter p
  constructor
  · intro hlength
    match hl : l.filter p with
    | [] =>
      rw [hl] at hlength
      exact absurd hlength (by simp)
    | [a] =>
      rw [hl] at hlength
      exact absurd hlength (by simp)
    | a :: b :: rest =>
      have ha : a ∈ l.filter p := hl ▸ List.mem_cons_self
      have hb : b ∈ l.filter p := hl ▸ List.mem_cons_of_mem _ List.mem_cons_self
      rw [hl] at hfilter
      refine ⟨a, (List.mem_filter.mp ha).1, b, (List.mem_filter.mp hb).1, ?_,
        (List.mem_filter.mp ha).2, (List.mem_filter.mp hb).2⟩
      rintro rfl
      exact (List.nodup_cons.mp hfilter).1 List.mem_cons_self
  · rintro ⟨a, ha, b, hb, hne, hpa, hpb⟩
    have hsub : [a, b].Subperm (l.filter p) := by
      refine List.subperm_of_subset ?_ fun c hc => ?_
      · simp [hne]
      · rcases List.mem_cons.mp hc with rfl | hc
        · exact List.mem_filter.mpr ⟨ha, hpa⟩
        · rw [List.mem_singleton.mp hc]
          exact List.mem_filter.mpr ⟨hb, hpb⟩
    exact hsub.length_le

/-- What a snapshot has to say about the keys of the settings at a moment. -/
structure Agrees (settings : Settings sha256) (t : Instant)
    (snapshot : SupplyChainKeyReadinessSnapshot) : Prop where
  /-- Each key has one item, which tells whether it accepts. -/
  items : ∃ keys, keys.Perm settings.publicKeys ∧ List.Forall₂ (fun key item =>
    item.credentialId = key.credentialId ∧ item.acceptsNow = key.accepts t t) keys snapshot.keys
  configured : snapshot.configuredKeyCount = snapshot.keys.length
  partition : snapshot.keys.length = snapshot.sized .active + snapshot.sized .expiringSoon +
    snapshot.sized .notYetActive + snapshot.sized .expired + snapshot.sized .revoked
  accepting : snapshot.acceptingKeyCount = snapshot.sized .active + snapshot.sized .expiringSoon
  future : snapshot.futureKeyCount = snapshot.sized .notYetActive
  expiringSoon : snapshot.expiringSoonKeyCount = snapshot.sized .expiringSoon
  expired : snapshot.expiredKeyCount = snapshot.sized .expired
  revoked : snapshot.revokedKeyCount = snapshot.sized .revoked
  overlap : snapshot.overlapReady = true ↔ settings.publicKeys ≠ [] ∧
    ∀ key ∈ settings.publicKeys, ∃ a ∈ settings.publicKeys, ∃ b ∈ settings.publicKeys,
      a ≠ b ∧ (a.group = key.group ∧ a.accepts t t = true) ∧
        (b.group = key.group ∧ b.accepts t t = true)
  blocked : snapshot.status = .blocked ↔ ∀ key ∈ settings.publicKeys, key.accepts t t = false

theorem countP_statuses {statuses : List VerifierKeyStatus} :
    statuses.length = statuses.count .active + statuses.count .expiringSoon +
      statuses.count .notYetActive + statuses.count .expired + statuses.count .revoked ∧
    statuses.countP VerifierKeyStatus.accepting =
      statuses.count .active + statuses.count .expiringSoon := by
  induction statuses with
  | nil => exact ⟨rfl, rfl⟩
  | cons status statuses ih =>
    obtain ⟨hlength, haccepting⟩ := ih
    rw [List.length_cons, hlength, List.countP_cons, haccepting]
    simp only [List.count_cons]
    cases status <;> simp [VerifierKeyStatus.accepting] <;> omega

theorem collect_agrees (h : collectKeyReadiness settings t = .ok snapshot) :
    Agrees settings t snapshot := by
  simp only [collectKeyReadiness, bind_eq_ok, ensure_eq_ok, pure_eq_ok, exists_const] at h
  obtain ⟨-, rfl⟩ := h
  generalize hwarning : t + (settings.keyExpiryWarningDays : Int) * cronMicrosPerDay = warningUntil
  generalize hkeys : sortBy SupplyChainVerifierPublicKey.place settings.publicKeys = keys
  have hperm : keys.Perm settings.publicKeys := hkeys ▸ sortBy_perm
  have hnodup : settings.publicKeys.Nodup := publicKeys_ids.of_map
  have hstatuses : ∀ status, (keys.map fun key => keyStatus key t warningUntil).count status =
      ((keys.zip (keys.map fun key => keyStatus key t warningUntil)).map fun pair =>
        readinessItem sha256 pair.1 pair.2).countP fun item => decide (item.status = status) := by
    intro status
    rw [zip_map_self, List.map_map, List.countP_map, List.count_eq_countP, List.countP_map]
    exact List.countP_congr fun key _ => by simp [readinessItem]
  obtain ⟨hlength, haccepting⟩ :=
    @countP_statuses (keys.map fun key => keyStatus key t warningUntil)
  have hnone : (keys.map fun key => keyStatus key t warningUntil).countP
      VerifierKeyStatus.accepting = 0 ↔ ∀ key ∈ settings.publicKeys, key.accepts t t = false := by
    rw [List.countP_map, List.countP_eq_zero]
    constructor
    · intro hall key hkey
      have hnot := hall key (hperm.symm.subset hkey)
      rw [Function.comp_apply, accepting_keyStatus, Bool.not_eq_true] at hnot
      exact hnot
    · intro hall key hkey
      rw [Function.comp_apply, accepting_keyStatus, hall key (hperm.subset hkey)]
      exact Bool.false_ne_true
  have hgroup : ∀ group, get (counts (((keys.zip (keys.map fun key =>
      keyStatus key t warningUntil)).filter fun pair => pair.2.accepting).map fun pair =>
        pair.1.group)) group =
      keys.countP fun key => decide (key.group = group ∧ key.accepts t t = true) := by
    intro group
    rw [get_counts, List.countP_map, List.countP_filter, zip_map_self, List.countP_map]
    refine List.countP_congr fun key _ => ?_
    simp [accepting_keyStatus]
  constructor
  case items =>
    refine ⟨keys, hperm, ?_⟩
    rw [zip_map_self, List.map_map, List.forall₂_map_right_iff, List.forall₂_same]
    exact fun key _ => ⟨rfl, accepting_keyStatus⟩
  case configured => simp [zip_map_self]
  case partition =>
    simp only [SupplyChainKeyReadinessSnapshot.sized, ← hstatuses]
    rw [← hlength]
    simp [zip_map_self]
  case accepting =>
    simp only [SupplyChainKeyReadinessSnapshot.sized, ← hstatuses]
    exact haccepting
  case future => exact hstatuses _
  case expiringSoon => exact hstatuses _
  case expired => exact hstatuses _
  case revoked => exact hstatuses _
  case overlap =>
    have hnodup' : keys.Nodup := hperm.nodup_iff.mpr hnodup
    simp only [Bool.and_eq_true, Bool.not_eq_true', List.isEmpty_eq_false_iff, List.all_eq_true,
      decide_eq_true_eq, hgroup, two_le_countP hnodup', List.mem_dedup, List.mem_map, ne_eq,
      List.dedup_eq_nil, List.map_eq_nil_iff, forall_exists_index, and_imp,
      forall_apply_eq_imp_iff₂, hperm.mem_iff]
    rw [← List.length_eq_zero_iff, hperm.length_eq, List.length_eq_zero_iff]
  case blocked =>
    rw [← hnone]
    split
    · rename_i hzero
      exact iff_of_true rfl hzero
    · rename_i hzero
      refine iff_of_false ?_ hzero
      split <;> simp

/-- The report is made from the sorted keys, the warning days and the flag. -/
theorem collect_congr (hkeys : sortBy SupplyChainVerifierPublicKey.place settings.publicKeys =
      sortBy SupplyChainVerifierPublicKey.place settings'.publicKeys)
    (hdays : settings.keyExpiryWarningDays = settings'.keyExpiryWarningDays)
    (hlegacy : settings.allowLegacyHmac = settings'.allowLegacyHmac)
    (hdigest : settings.configurationDigest = settings'.configurationDigest) :
    collectKeyReadiness settings t = collectKeyReadiness settings' t := by
  unfold collectKeyReadiness
  rw [hkeys, hdays, hlegacy, hdigest]

/-- The report agrees with what the keys do; neither it nor the digest depends on the order in which
    keys and credentials are configured; and the digest of another configuration is another one. -/
theorem keyReadiness_agrees (hsha : Function.Injective sha256) (settings : Settings sha256)
    (t : Instant) :
    ((∃ snapshot, collectKeyReadiness settings t = .ok snapshot) ↔
      t + settings.keyExpiryWarningDays * cronMicrosPerDay ≤ maxInstant) ∧
    (∀ snapshot, collectKeyReadiness settings t = .ok snapshot → Agrees settings t snapshot) ∧
    ∀ settings' : Settings sha256,
      (settings.configurationDigest = settings'.configurationDigest ↔
        settings.publicKeys.Perm settings'.publicKeys ∧
        (settings.credentials.map (·.credentialId)).Perm
          (settings'.credentials.map (·.credentialId)) ∧
        settings.keyExpiryWarningDays = settings'.keyExpiryWarningDays ∧
        settings.allowLegacyHmac = settings'.allowLegacyHmac) ∧
      (settings.configurationDigest = settings'.configurationDigest →
        collectKeyReadiness settings t = collectKeyReadiness settings' t) := by
  refine ⟨?_, fun snapshot h => collect_agrees h, fun settings' => ⟨⟨configurationDigest_inj hsha,
    fun h => ?_⟩, fun hdigest => ?_⟩⟩
  · simp only [collectKeyReadiness, bind_eq_ok, ensure_eq_ok, pure_eq_ok, exists_const,
      exists_and_left, exists_eq', and_true]
  · have hdocument := document_perm h.1 h.2.1 h.2.2.1 h.2.2.2
    exact congrArg (fun document : Json => "sha256:".toList ++
      sha256 (document.render.flatMap String.utf8EncodeChar)) hdocument
  · obtain ⟨hkeys, -, hdays, hlegacy⟩ := configurationDigest_inj hsha hdigest
    exact collect_congr (sortBy_eq_of_perm place_inj hkeys) hdays hlegacy hdigest

/-! ### Two keys -/

/-- A digest that tells its bytes. -/
def plainDigest (bs : Bytes) : Text := bs.map fun b => Char.ofNat b.toNat

theorem plainDigest_injective : Function.Injective plainDigest := by
  have hbyte : ∀ n < 256, (Char.ofNat n).toNat = n := by decide +kernel
  refine Function.Injective.list_map fun a b h => ?_
  have hnat := congrArg Char.toNat h
  rw [hbyte _ a.toNat_lt, hbyte _ b.toNat_lt] at hnat
  exact UInt8.toNat_inj.mp hnat

def firstKey : SupplyChainVerifierPublicKey where
  credentialId := "ci-signer/key-1"
  verifier := "ci-signer"
  workloadIdentity := "spiffe://ci/signer"
  publicKey := List.replicate 32 1
  notBefore := none
  notAfter := some ⟨1000000, ⟨by decide, by decide, by decide⟩⟩
  revokedAt := none
  named := by decide
  ordered := by decide

def secondKey : SupplyChainVerifierPublicKey where
  credentialId := "ci-signer/key-2"
  verifier := "ci-signer"
  workloadIdentity := "spiffe://ci/signer"
  publicKey := List.replicate 32 2
  notBefore := none
  notAfter := none
  revokedAt := none
  named := by decide
  ordered := by decide

def keyring (publicKeys : List SupplyChainVerifierPublicKey)
    (hids : (publicKeys.map (·.credentialId) ++
      ([] : List SupplyChainVerifierCredential).map (·.credentialId)).Nodup)
    (hfew : (publicKeys.map (·.credentialId) ++
      ([] : List SupplyChainVerifierCredential).map (·.credentialId)).length ≤ 16)
    (hkeys : (publicKeys.map (·.keyFingerprint plainDigest)).Nodup) : Settings plainDigest :=
  ⟨publicKeys, [], false, 30, by decide, hids, hfew, hkeys⟩

def twoKeys : Settings plainDigest :=
  keyring [firstKey, secondKey] (by decide) (by decide) (by decide)

def swappedKeys : Settings plainDigest :=
  keyring [secondKey, firstKey] (by decide) (by decide) (by decide)

theorem twoKeys_agree : twoKeys.configurationDigest = swappedKeys.configurationDigest ∧
    ∃ snapshot, collectKeyReadiness twoKeys 0 = .ok snapshot ∧ Agrees twoKeys 0 snapshot := by
  have h := keyReadiness_agrees plainDigest_injective twoKeys 0
  constructor
  · exact (h.2.2 swappedKeys).1.mpr ⟨List.Perm.swap _ _ _, .nil, rfl, rfl⟩
  · obtain ⟨snapshot, hsnapshot⟩ := h.1.mpr (by decide)
    exact ⟨snapshot, hsnapshot, h.2.1 snapshot hsnapshot⟩

end TestOps.VerifierKeys
