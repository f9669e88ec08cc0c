import CallWatch.Proofs.Settings.Effective
import CallWatch.Proofs.Text.Cut

/-! The settings come from the effective texts alone. They are read if every text is what its
setting asks for, and are then the values of these texts; otherwise the first setting, in order,
whose text is not decides the error. What a layer holds behind an effective text makes no
difference. -/

namespace CallWatch

/-- What the settings ask of their texts, in the order in which they are read. The address, the
token and the host of the naming service ask for nothing. -/
def SettingKey.demands : List (SettingKey × Demand) :=
  [(batchSize, .positive 64), (flushMillis, .positive 64), (httpTimeoutMillis, .positive 64),
    (poolSize, .positive 64), (enabled, .flag), (captureRequest, .flag), (captureResponse, .flag),
    (maxPayloadBytes, .count 64), (nameserverPort, .count 16), (scanSeconds, .positive 64),
    (scanEnabled, .flag), (trustAll, .flag), (queueCapacity, .positive 64),
    (correlationSeconds, .positive 64)]

namespace Settings

/-- A URL is another one without any of the slashes at its end. -/
def Bares (url bare : String) : Prop :=
  ∃ slashes, url.toList = bare.toList ++ List.replicate slashes '/' ∧
    ∀ c ∈ bare.toList.getLast?, c ≠ '/'

/-- The settings are what the effective texts of the layers stand for, or the standard ones. -/
structure Reflects (layers : Layers) (s : Settings) : Prop where
  apiUrl : Bares ((layers.effective? .apiUrl).getD standard.apiUrl) s.apiUrl
  apiToken : s.apiToken = (layers.effective? .apiToken).getD standard.apiToken
  batchSize : layers.Gives .batchSize (IsPositive 64) standard.batchSize s.batchSize
  flushMillis : layers.Gives .flushMillis (IsPositive 64) standard.flushMillis s.flushMillis
  httpTimeoutMillis : layers.Gives .httpTimeoutMillis (IsPositive 64) standard.httpTimeoutMillis
    s.httpTimeoutMillis
  poolSize : layers.Gives .poolSize (IsPositive 64) standard.poolSize s.poolSize
  enabled : layers.Gives .enabled IsFlag standard.enabled s.enabled
  captureRequest : layers.Gives .captureRequest IsFlag standard.captureRequest s.captureRequest
  captureResponse : layers.Gives .captureResponse IsFlag standard.captureResponse s.captureResponse
  maxPayloadBytes : layers.Gives .maxPayloadBytes (IsCount 64) standard.maxPayloadBytes
    s.maxPayloadBytes
  nameserverHost : s.nameserverHost = (layers.effective? .nameserverHost).getD standard.nameserverHost
  nameserverPort : layers.Gives .nameserverPort (IsCount 16) standard.nameserverPort.toNat
    s.nameserverPort.toNat
  scanSeconds : layers.Gives .scanSeconds (IsPositive 64) standard.scanSeconds s.scanSeconds
  scanEnabled : layers.Gives .scanEnabled IsFlag standard.scanEnabled s.scanEnabled
  trustAll : layers.Gives .trustAll IsFlag standard.trustAll s.trustAll
  queueCapacity : layers.Gives .queueCapacity (IsPositive 64) standard.queueCapacity s.queueCapacity
  correlationSeconds : layers.Gives .correlationSeconds (IsPositive 64) standard.correlationSeconds
    s.correlationSeconds

theorem bares_withoutTrailingSlashes (url : String) : Bares url (withoutTrailingSlashes url) := by
  have hslashes : ∀ c ∈ (url.toList.reverse.takeWhile (· = '/')).reverse, c = '/' := fun c hc => by
    simpa using List.mem_takeWhile_imp (List.mem_reverse.mp hc)
  refine ⟨(url.toList.reverse.takeWhile (· = '/')).reverse.length, ?_, ?_⟩
  · rw [← List.eq_replicate_of_mem hslashes, withoutTrailingSlashes, String.toList_ofList,
      ← List.reverse_append, List.takeWhile_append_dropWhile, List.reverse_reverse]
  · rw [withoutTrailingSlashes, String.toList_ofList, List.getLast?_reverse]
    intro c hc
    have hhead := List.head?_dropWhile_not (· = '/') url.toList.reverse
    rw [Option.mem_def.mp hc] at hhead
    simpa using hhead

theorem withoutTrailingSlashes_eq_iff {url bare : String} :
    withoutTrailingSlashes url = bare ↔ Bares url bare := by
  constructor
  · rintro rfl
    exact bares_withoutTrailingSlashes url
  · rintro ⟨slashes, hurl, hlast⟩
    have hdrop : url.toList.reverse.dropWhile (· = '/') = bare.toList.reverse := by
      rw [hurl, List.reverse_append]
      refine Text.dropWhile_append (fun c hc => ?_) fun c hc => ?_
      · rw [List.reverse_replicate] at hc
        exact decide_eq_true (List.eq_of_mem_replicate hc)
      · rw [List.head?_reverse] at hc
        simpa using hlast c hc
    rw [withoutTrailingSlashes, hdrop, List.reverse_reverse, String.ofList_toList]

theorem gives_ofNat {layers : Layers} {key : SettingKey} {absent : UInt16} {n : Nat}
    (h : layers.Gives key (IsCount 16) absent.toNat n) :
    layers.Gives key (IsCount 16) absent.toNat (UInt16.ofNat n).toNat := by
  have hn : n < 2 ^ 16 := by
    unfold Layers.Gives at h
    split at h
    · exact h ▸ absent.toNat_lt
    · exact h.2
  rwa [UInt16.toNat_ofNat_of_lt' hn]

theorem resolve_eq_ok_iff {layers : Layers} {s : Settings} :
    resolve layers = .ok s ↔ Reflects layers s := by
  constructor
  · intro h
    unfold resolve at h
    simp (disch := decide) only [bind_eq_ok_iff, word, Layers.positive_eq_ok_iff,
      Layers.flag_eq_ok_iff, Layers.integer_eq_ok_iff] at h
    obtain ⟨_, ⟨batchSize, rfl, hbatch⟩, _, ⟨flush, rfl, hflush⟩, _, ⟨timeout, rfl, htimeout⟩,
      _, ⟨pool, rfl, hpool⟩, enabled, henabled, request, hrequest, response, hresponse,
      _, ⟨payload, rfl, hpayload⟩, _, ⟨port, rfl, hport⟩, _, ⟨scan, rfl, hscan⟩, scans, hscans,
      trust, htrust, _, ⟨capacity, rfl, hcapacity⟩, _, ⟨ttl, rfl, httl⟩, h⟩ := h
    simp only [Int.toNat_natCast] at h
    obtain rfl := Except.ok.inj h
    exact {
      apiUrl := withoutTrailingSlashes_eq_iff.mp (by rw [Layers.string_eq])
      apiToken := Layers.string_eq ..
      batchSize := hbatch
      flushMillis := hflush
      httpTimeoutMillis := htimeout
      poolSize := hpool
      enabled := henabled
      captureRequest := hrequest
      captureResponse := hresponse
      maxPayloadBytes := hpayload
      nameserverHost := Layers.string_eq ..
      nameserverPort := gives_ofNat hport
      scanSeconds := hscan
      scanEnabled := hscans
      trustAll := htrust
      queueCapacity := hcapacity
      correlationSeconds := httl }
  · intro h
    have hpositive {key : SettingKey} {absent n : Nat} (habsent : absent ≠ 0)
        (hn : layers.Gives key (IsPositive 64) absent n) :
        layers.positive word key absent = .ok (n : Int) :=
      (Layers.positive_eq_ok_iff habsent).mpr ⟨n, rfl, hn⟩
    have hcount {bits : Nat} {key : SettingKey} {absent n : Nat}
        (hn : layers.Gives key (IsCount bits) absent n) :
        layers.integer (.unsigned bits) key absent = .ok (n : Int) :=
      Layers.integer_eq_ok_iff.mpr ⟨n, rfl, hn⟩
    simp only [resolve, Layers.string_eq, withoutTrailingSlashes_eq_iff.mpr h.apiUrl,
      ← h.apiToken, ← h.nameserverHost, hpositive (by decide) h.batchSize,
      hpositive (by decide) h.flushMillis, hpositive (by decide) h.httpTimeoutMillis,
      hpositive (by decide) h.poolSize, Layers.flag_eq_ok_iff.mpr h.enabled,
      Layers.flag_eq_ok_iff.mpr h.captureRequest, Layers.flag_eq_ok_iff.mpr h.captureResponse,
      show layers.integer word .maxPayloadBytes standard.maxPayloadBytes = _ from
        hcount h.maxPayloadBytes,
      hcount h.nameserverPort, hpositive (by decide) h.scanSeconds,
      Layers.flag_eq_ok_iff.mpr h.scanEnabled, Layers.flag_eq_ok_iff.mpr h.trustAll,
      hpositive (by decide) h.queueCapacity, hpositive (by decide) h.correlationSeconds,
      bind, Except.bind, pure, Except.pure, Int.toNat_natCast, UInt16.ofNat_toNat]

/-- The settings are read one after another, each with its demand. -/
theorem checks_resolve (layers : Layers) :
    Layers.Checks layers (resolve layers) SettingKey.demands := by
  unfold resolve
  extract_lets
  refine .positive (by decide) fun _ => ?_
  refine .positive (by decide) fun _ => ?_
  refine .positive (by decide) fun _ => ?_
  refine .positive (by decide) fun _ => ?_
  refine .flag fun _ => ?_
  refine .flag fun _ => ?_
  refine .flag fun _ => ?_
  refine .count fun _ => ?_
  refine .count fun _ => ?_
  refine .positive (by decide) fun _ => ?_
  refine .flag fun _ => ?_
  refine .flag fun _ => ?_
  refine .positive (by decide) fun _ => ?_
  refine .positive (by decide) fun _ => ?_
  exact .pure _

/-- Only effective texts are read. -/
theorem resolve_congr {layers other : Layers}
    (h : ∀ key ∈ SettingKey.all, other.effective? key = layers.effective? key) :
    resolve other = resolve layers := by
  simp only [SettingKey.all, List.forall_mem_cons, ← Layers.lookup?_eq_effective?] at h
  simp only [resolve, Layers.positive, Layers.integer, Layers.flag, Layers.string, Layers.value, h]

/-- Without any text the settings are the standard ones, which so meet their own demands. -/
theorem resolve_of_no_text {layers : Layers}
    (h : ∀ key ∈ SettingKey.all, layers.effective? key = none) :
    resolve layers = .ok standard := by
  have hlast : standard.apiUrl.toList.getLast? = some 'i' := by decide
  have hbare : Bares standard.apiUrl standard.apiUrl := by
    refine ⟨0, by decide, fun c hc => ?_⟩
    rw [hlast, Option.mem_some_iff] at hc
    exact hc ▸ by decide
  simp only [SettingKey.all, List.forall_mem_cons] at h
  rw [resolve_eq_ok_iff]
  constructor <;> simp only [Layers.Gives, h, Option.getD_none, hbare]

/-- The settings are read exactly if each text that counts is what its setting asks for, and then
they are what these texts stand for. Otherwise the first setting whose text is not decides the
error. Texts behind those that count make no difference. -/
theorem resolve_of_effective_texts (layers : Layers) :
    ((∃ s, resolve layers = .ok s) ↔ ∀ demand ∈ SettingKey.demands, layers.Meets demand) ∧
    (∀ s, resolve layers = .ok s ↔ Reflects layers s) ∧
    (∀ e, resolve layers = .error e ↔ layers.FirstBreach SettingKey.demands e) ∧
    ∀ other : Layers, (∀ key ∈ SettingKey.all, other.effective? key = layers.effective? key) →
      resolve other = resolve layers :=
  ⟨(checks_resolve layers).ok, fun _ => resolve_eq_ok_iff, (checks_resolve layers).error,
    fun _ h => resolve_congr h⟩

end Settings

end CallWatch
