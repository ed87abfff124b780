import QueryShell.Config.Resolution
import QueryShell.Proofs.Computation

namespace QueryShell.Config

open Connection (Options)

inductive Blank : Setting → Prop where
  | null : Blank .null
  | false : Blank (.bool false)
  | zero : Blank (.int 0)
  | noFloat {x : Float} : (x == 0.0) = true → Blank (.float x)
  | noText : Blank (.text "")
  | noBytes : Blank (.bytes [])
  | other : Blank (.other false)

inductive ReadsText : Setting → Except Problem String → Prop where
  | text {s : String} : ReadsText (.text s) (.ok s)
  | bytes {data : List UInt8} {cs : List Char} : Text.decodeStrict? .utf8 data = some cs →
      ReadsText (.bytes data) (.ok (String.ofList cs))
  | malformed {data : List UInt8} : Text.decodeStrict? .utf8 data = none →
      ReadsText (.bytes data) (.error .notUnicode)
  | broken : ReadsText .brokenText (.error .notUnicode)
  | other {setting : Setting} : (∀ s, setting ≠ .text s) → (∀ data, setting ≠ .bytes data) →
      setting ≠ .brokenText → ReadsText setting (.error .notText)

inductive ReadsSecret (setting : Setting) : Except Problem String → Prop where
  | text {s : String} : ReadsText setting (.ok s) → s ≠ "" → ReadsSecret setting (.ok s)
  | empty : ReadsText setting (.ok "") → ReadsSecret setting (.error .empty)
  | unread {problem : Problem} : ReadsText setting (.error problem) →
      ReadsSecret setting (.error problem)

inductive ReadsScheme : Setting → Except Problem String → Prop where
  | http : ReadsScheme (.text "http") (.ok "http")
  | https : ReadsScheme (.text "https") (.ok "https")
  | other {setting : Setting} : setting ≠ .text "http" → setting ≠ .text "https" →
      ReadsScheme setting (.error .unknownScheme)

inductive ReadsInteger : Setting → Except Problem Int → Prop where
  | int {n : Int} : ReadsInteger (.int n) (.ok n)
  | true : ReadsInteger (.bool true) (.ok 1)
  | false : ReadsInteger (.bool false) (.ok 0)
  | float {x : Float} {n : Int} : Decimal.toInt? x = some n → n.natAbs < 9223372036854775808 →
      ReadsInteger (.float x) (.ok n)
  | wideFloat {x : Float} {n : Int} : Decimal.toInt? x = some n → 9223372036854775808 ≤ n.natAbs →
      ReadsInteger (.float x) (.error .oversizedInteger)
  | fraction {x : Float} : Decimal.isFinite x = true → Decimal.toInt? x = none →
      ReadsInteger (.float x) (.error .fractional)
  | infinite {x : Float} : Decimal.isFinite x = false →
      ReadsInteger (.float x) (.error .notFinite)
  | text {setting : Setting} {s : String} {n : Int} : ReadsText setting (.ok s) →
      writtenInt s.toList = .ok n → ReadsInteger setting (.ok n)
  | longText {setting : Setting} {s : String} : ReadsText setting (.ok s) →
      writtenInt s.toList = .error .oversized → ReadsInteger setting (.error .oversizedInteger)
  | badText {setting : Setting} {s : String} : ReadsText setting (.ok s) →
      writtenInt s.toList = .error .malformed → ReadsInteger setting (.error .unreadableInteger)
  | noText {data : List UInt8} : ReadsText (.bytes data) (.error .notUnicode) →
      ReadsInteger (.bytes data) (.error .unreadableInteger)
  | broken : ReadsInteger .brokenText (.error .notUnicode)
  | null : ReadsInteger .null (.error .notInteger)
  | other {given : Bool} : ReadsInteger (.other given) (.error .notInteger)

inductive ReadsPort (setting : Setting) : Except Problem Nat → Prop where
  | port {n : Nat} : ReadsInteger setting (.ok n) → 1 ≤ n → n ≤ 65535 → ReadsPort setting (.ok n)
  | low {n : Int} : ReadsInteger setting (.ok n) → n < 1 → ReadsPort setting (.error .tooLow)
  | high {n : Int} : ReadsInteger setting (.ok n) → 65535 < n →
      ReadsPort setting (.error .tooHigh)
  | unread {problem : Problem} : ReadsInteger setting (.error problem) →
      ReadsPort setting (.error problem)

inductive ReadsNumber : Setting → Except Problem Float → Prop where
  | float {x : Float} : ReadsNumber (.float x) (.ok x)
  | true : ReadsNumber (.bool true) (.ok 1.0)
  | false : ReadsNumber (.bool false) (.ok 0.0)
  | int {n : Int} {x : Float} : Decimal.ofInt? n = some x → ReadsNumber (.int n) (.ok x)
  | wideInt {n : Int} : Decimal.ofInt? n = none → ReadsNumber (.int n) (.error .notNumber)
  | text {setting : Setting} {s : String} {x : Float} : ReadsText setting (.ok s) →
      writtenFloat? s.toList = some x → ReadsNumber setting (.ok x)
  | badText {setting : Setting} {s : String} : ReadsText setting (.ok s) →
      writtenFloat? s.toList = none → ReadsNumber setting (.error .unreadableNumber)
  | noText {data : List UInt8} : ReadsText (.bytes data) (.error .notUnicode) →
      ReadsNumber (.bytes data) (.error .unreadableNumber)
  | broken : ReadsNumber .brokenText (.error .notUnicode)
  | null : ReadsNumber .null (.error .notNumber)
  | other {given : Bool} : ReadsNumber (.other given) (.error .notNumber)

inductive ReadsTimeout : Setting → Except Problem (Option Float) → Prop where
  | never : ReadsTimeout .null (.ok none)
  | seconds {setting : Setting} {x : Float} : setting ≠ .null → ReadsNumber setting (.ok x) →
      0.0 < x → ReadsTimeout setting (.ok (some x))
  | low {setting : Setting} {x : Float} : setting ≠ .null → ReadsNumber setting (.ok x) →
      ¬ 0.0 < x → ReadsTimeout setting (.error .notPositive)
  | unread {setting : Setting} {problem : Problem} : setting ≠ .null →
      ReadsNumber setting (.error problem) → ReadsTimeout setting (.error problem)

inductive OrDefault {α : Type} (reads : Setting → Except Problem α → Prop)
    (usual : Except Problem α) : Option Setting → Except Problem α → Prop where
  | supplied {found : Setting} {result : Except Problem α} : reads found result →
      OrDefault reads usual (some found) result
  | default : OrDefault reads usual none usual

structure Validated (setting : Field → Option Setting)
    (secret domain scheme : Except Problem String) (port : Except Problem Nat)
    (timeout : Except Problem (Option Float)) : Prop where
  secret : OrDefault ReadsSecret (.error .missing) (setting .secret) secret
  domain : OrDefault ReadsText (.ok "db.fauna.com") (setting .domain) domain
  scheme : OrDefault ReadsScheme (.ok "https") (setting .scheme) scheme
  port : OrDefault ReadsPort (.ok 443) (setting .port) port
  timeout : OrDefault ReadsTimeout (.ok none) (setting .timeout) timeout

def problemsOf (problems : List (Field × Option Problem)) : List Finding :=
  problems.filterMap fun p => p.2.map fun problem => ⟨p.1, problem⟩

inductive Judged (setting : Field → Option Setting) : Except Unresolved Options → Prop where
  | secretMissing : (∀ found, setting .secret = some found → Blank found) →
      Judged setting (.error (.refused (.failed (.configuration missingSecret))))
  | options {found : Setting} {secret domain scheme : String} {port : Nat}
      {timeout : Option Float} : setting .secret = some found → ¬ Blank found →
      Validated setting (.ok secret) (.ok domain) (.ok scheme) (.ok port) (.ok timeout) →
      Judged setting (.ok ⟨secret, domain, scheme, port, timeout⟩)
  | invalid {found : Setting} {secret domain scheme : Except Problem String}
      {port : Except Problem Nat} {timeout : Except Problem (Option Float)}
      {problems : List Finding} : setting .secret = some found → ¬ Blank found →
      Validated setting secret domain scheme port timeout →
      problems = problemsOf [(.secret, error? secret), (.domain, error? domain),
        (.scheme, error? scheme), (.port, error? port), (.timeout, error? timeout)] →
      problems ≠ [] → Judged setting (.error (.invalid problems))

theorem blank_iff {setting : Setting} : Blank setting ↔ setting.isGiven = false := by
  constructor
  · intro h
    cases h with
    | noFloat hx => simp [Setting.isGiven, bne, hx]
    | _ => rfl
  · intro h
    cases setting with
    | null => exact .null
    | bool b => cases h; exact .false
    | int n =>
        obtain rfl : n = 0 := by simpa [Setting.isGiven] using h
        exact .zero
    | float x => exact .noFloat (by simpa [Setting.isGiven, bne] using h)
    | text s =>
        obtain rfl : s = "" := by simpa [Setting.isGiven] using h
        exact .noText
    | bytes data =>
        obtain rfl : data = [] := by simpa [Setting.isGiven] using h
        exact .noBytes
    | brokenText => cases h
    | other given => cases h; exact .other

section

variable {setting : Setting}

theorem readsText_checkText (setting : Setting) : ReadsText setting (checkText setting) := by
  cases setting with
  | text s =>
      have hs : checkText (.text s) = .ok s := congrArg Except.ok String.ofList_toList
      rw [hs]
      exact .text
  | bytes data =>
      cases hdata : Text.decodeStrict? .utf8 data with
      | none =>
          simp only [checkText, textOf?, hdata]
          exact .malformed hdata
      | some cs =>
          simp only [checkText, textOf?, hdata]
          exact .bytes hdata
  | brokenText => exact .broken
  | _ => exact .other nofun nofun nofun

theorem ReadsText.unique {r r' : Except Problem String} (h : ReadsText setting r)
    (h' : ReadsText setting r') : r = r' := by
  cases h with
  | text =>
      cases h' with
      | text => rfl
      | other hno => exact absurd rfl (hno _)
  | broken =>
      cases h' with
      | broken => rfl
      | other _ _ hno => exact absurd rfl hno
  | bytes hdata =>
      cases h' with
      | bytes hdata' => cases hdata.symm.trans hdata'; rfl
      | malformed hdata' => cases hdata.symm.trans hdata'
      | other _ hno => exact absurd rfl (hno _)
  | malformed hdata =>
      cases h' with
      | bytes hdata' => cases hdata.symm.trans hdata'
      | malformed _ => rfl
      | other _ hno => exact absurd rfl (hno _)
  | other hno hno' hbroken =>
      cases h' with
      | text => exact absurd rfl (hno _)
      | bytes _ => exact absurd rfl (hno' _)
      | malformed _ => exact absurd rfl (hno' _)
      | broken => exact absurd rfl hbroken
      | other _ _ _ => rfl

theorem readsText_iff (setting : Setting) (r : Except Problem String) :
    ReadsText setting r ↔ checkText setting = r :=
  ⟨fun h => (readsText_checkText setting).unique h, fun h => h ▸ readsText_checkText setting⟩

theorem readsSecret_iff (setting : Setting) (r : Except Problem String) :
    ReadsSecret setting r ↔ checkSecret setting = r := by
  have hdo : checkSecret setting = checkText setting >>= fun secret =>
      if secret == "" then .error .empty else .ok secret := rfl
  rw [hdo]
  constructor
  · intro h
    cases h with
    | text hs hne => rw [(readsText_iff _ _).1 hs]; simp [hne, bind, Except.bind]
    | empty hs => rw [(readsText_iff _ _).1 hs]; rfl
    | unread hs => rw [(readsText_iff _ _).1 hs]; rfl
  · rintro rfl
    cases hs : checkText setting with
    | error problem => exact .unread ((readsText_iff _ _).2 hs)
    | ok s =>
        by_cases hne : s = ""
        · subst hne
          exact .empty ((readsText_iff _ _).2 hs)
        · have hok : (Except.ok s >>= fun secret : String =>
              if secret == "" then Except.error Problem.empty else .ok secret) = .ok s := by
            simp [hne, bind, Except.bind]
          rw [hok]
          exact .text ((readsText_iff _ _).2 hs) hne

theorem checkScheme_other {s : String} (hhttp : s ≠ "http") (hhttps : s ≠ "https") :
    checkScheme (.text s) = .error .unknownScheme := by
  simp [checkScheme, schemes, hhttp, hhttps]

theorem readsScheme_iff (setting : Setting) (r : Except Problem String) :
    ReadsScheme setting r ↔ checkScheme setting = r := by
  constructor
  · intro h
    cases h with
    | http => rfl
    | https => rfl
    | other hhttp hhttps =>
        cases setting with
        | text s =>
            exact checkScheme_other (fun h => hhttp (congrArg _ h)) fun h => hhttps (congrArg _ h)
        | _ => rfl
  · rintro rfl
    cases setting with
    | text s =>
        by_cases hhttp : s = "http"
        · subst hhttp
          exact .http
        · by_cases hhttps : s = "https"
          · subst hhttps
            exact .https
          · rw [checkScheme_other hhttp hhttps]
            exact .other (by simpa using hhttp) (by simpa using hhttps)
    | _ => exact .other nofun nofun

theorem ReadsText.whole {s : String} (h : ReadsText setting (.ok s)) : setting ≠ .brokenText := by
  rintro rfl
  cases h

def integerOfRead : Except Problem String → Except Problem Int
  | .ok s => integerOfText s.toList
  | .error _ => .error .unreadableInteger

theorem checkInteger_read {r : Except Problem String} (h : ReadsText setting r)
    (hr : r ≠ .error .notText) (hwhole : setting ≠ .brokenText) :
    checkInteger setting = integerOfRead r := by
  cases h with
  | text => rfl
  | broken => exact absurd rfl hwhole
  | bytes hdata => simp [checkInteger, textOf?, hdata, integerOfRead]
  | malformed hdata => simp [checkInteger, textOf?, hdata, integerOfRead]
  | other _ _ _ => exact absurd rfl hr

theorem readsInteger_read {r : Except Problem String} (h : ReadsText setting r)
    (hr : r ≠ .error .notText) (hwhole : setting ≠ .brokenText) :
    ReadsInteger setting (integerOfRead r) := by
  cases r with
  | ok s =>
      cases hs : writtenInt s.toList with
      | ok n =>
          simp only [integerOfRead, integerOfText, hs]
          exact .text h hs
      | error fault =>
          cases fault with
          | malformed =>
              simp only [integerOfRead, integerOfText, hs]
              exact .badText h hs
          | oversized =>
              simp only [integerOfRead, integerOfText, hs]
              exact .longText h hs
  | error problem =>
      cases h with
      | malformed hdata => exact .noText (.malformed hdata)
      | broken => exact absurd rfl hwhole
      | other _ _ _ => exact absurd rfl hr

theorem readsText_bytes (data : List UInt8) : checkText (.bytes data) ≠ .error .notText := by
  cases hdata : Text.decodeStrict? .utf8 data <;> simp [checkText, textOf?, hdata]

section

variable {x : Float} {n : Int}

theorem checkInteger_float (hfinite : Decimal.isFinite x = true) (hx : Decimal.toInt? x = some n)
    (hn : n.natAbs < wordBound) : checkInteger (.float x) = .ok n := by
  simp only [checkInteger, integerOfFloat, hfinite, hx, if_pos hn, Bool.not_true,
    Bool.false_eq_true, if_false]

theorem checkInteger_wideFloat (hfinite : Decimal.isFinite x = true)
    (hx : Decimal.toInt? x = some n) (hn : wordBound ≤ n.natAbs) :
    checkInteger (.float x) = .error .oversizedInteger := by
  simp only [checkInteger, integerOfFloat, hfinite, hx, if_neg (Nat.not_lt.2 hn), Bool.not_true,
    Bool.false_eq_true, if_false]

end

theorem readsInteger_iff (setting : Setting) (r : Except Problem Int) :
    ReadsInteger setting r ↔ checkInteger setting = r := by
  have hbound : wordBound = 9223372036854775808 := rfl
  have hlimit : ∀ {x : Float} {n : Int}, Decimal.toInt? x = some n → Decimal.isFinite x = true := by
    intro x n hx
    unfold Decimal.toInt? at hx
    unfold Decimal.isFinite
    split at hx
    · rfl
    · cases hx
  constructor
  · intro h
    cases h with
    | float hx hn => exact checkInteger_float (hlimit hx) hx (hbound ▸ hn)
    | wideFloat hx hn => exact checkInteger_wideFloat (hlimit hx) hx (hbound ▸ hn)
    | fraction hfinite hx => simp [checkInteger, integerOfFloat, hfinite, hx]
    | infinite hx => simp [checkInteger, integerOfFloat, hx]
    | text hs hn => rw [checkInteger_read hs nofun hs.whole, integerOfRead, integerOfText, hn]
    | longText hs hn => rw [checkInteger_read hs nofun hs.whole, integerOfRead, integerOfText, hn]
    | badText hs hn => rw [checkInteger_read hs nofun hs.whole, integerOfRead, integerOfText, hn]
    | noText hs => rw [checkInteger_read hs (by simp) nofun, integerOfRead]
    | _ => rfl
  · rintro rfl
    cases setting with
    | null => exact .null
    | bool b => cases b with
      | true => exact .true
      | false => exact .false
    | int n => exact .int
    | float x =>
        simp only [checkInteger, integerOfFloat]
        cases hfinite : Decimal.isFinite x with
        | false => exact .infinite hfinite
        | true =>
            cases hx : Decimal.toInt? x with
            | none => exact .fraction hfinite hx
            | some n =>
                by_cases hn : n.natAbs < 9223372036854775808
                · simp only [Bool.not_true, Bool.false_eq_true, if_false, hbound, if_pos hn]
                  exact .float hx hn
                · simp only [Bool.not_true, Bool.false_eq_true, if_false, hbound, if_neg hn]
                  exact .wideFloat hx (Nat.not_lt.1 hn)
    | text s =>
        rw [checkInteger_read .text nofun nofun]
        exact readsInteger_read .text nofun nofun
    | brokenText => exact .broken
    | bytes data =>
        have hr := readsText_bytes data
        rw [checkInteger_read (readsText_checkText _) hr nofun]
        exact readsInteger_read (readsText_checkText _) hr nofun
    | other given => exact .other

theorem readsPort_iff (setting : Setting) (r : Except Problem Nat) :
    ReadsPort setting r ↔ checkPort setting = r := by
  have hdo : checkPort setting = checkInteger setting >>= fun n =>
      if 65535 < n then .error .tooHigh else if n < 1 then .error .tooLow else .ok n.toNat := rfl
  rw [hdo]
  constructor
  · intro h
    cases h with
    | port hn hlow hhigh =>
        rw [(readsInteger_iff _ _).1 hn]
        have hhigh' : ¬ (65535 : Int) < _ := Int.not_lt.2 (Int.ofNat_le.2 hhigh)
        have hlow' : ¬ _ < (1 : Int) := Int.not_lt.2 (Int.ofNat_le.2 hlow)
        simp only [bind, Except.bind, if_neg hhigh', if_neg hlow', Int.toNat_natCast]
    | @low n hn hlow =>
        rw [(readsInteger_iff _ _).1 hn]
        have hhigh : ¬ 65535 < n := by omega
        simp only [bind, Except.bind, if_neg hhigh, if_pos hlow]
    | high hn hhigh =>
        rw [(readsInteger_iff _ _).1 hn]
        simp only [bind, Except.bind, if_pos hhigh]
    | unread hn => rw [(readsInteger_iff _ _).1 hn]; rfl
  · rintro rfl
    cases hn : checkInteger setting with
    | error problem => exact .unread ((readsInteger_iff _ _).2 hn)
    | ok n =>
        simp only [bind, Except.bind]
        split
        · next hhigh => exact .high ((readsInteger_iff _ _).2 hn) hhigh
        · split
          · next hlow => exact .low ((readsInteger_iff _ _).2 hn) hlow
          · obtain ⟨k, rfl⟩ : ∃ k : Nat, n = k := ⟨n.toNat, by omega⟩
            rw [Int.toNat_natCast]
            exact .port ((readsInteger_iff _ _).2 hn) (by omega) (by omega)

def numberOfRead : Except Problem String → Except Problem Float
  | .ok s =>
      match writtenFloat? s.toList with
      | some x => .ok x
      | none => .error .unreadableNumber
  | .error _ => .error .unreadableNumber

theorem checkNumber_read {r : Except Problem String} (h : ReadsText setting r)
    (hr : r ≠ .error .notText) (hwhole : setting ≠ .brokenText) :
    checkNumber setting = numberOfRead r := by
  cases h with
  | text => rfl
  | broken => exact absurd rfl hwhole
  | @bytes data cs hdata =>
      cases hx : writtenFloat? cs <;> simp [checkNumber, textOf?, hdata, numberOfRead, hx]
  | malformed hdata => simp [checkNumber, textOf?, hdata, numberOfRead]
  | other _ _ _ => exact absurd rfl hr

theorem readsNumber_read {r : Except Problem String} (h : ReadsText setting r)
    (hr : r ≠ .error .notText) (hwhole : setting ≠ .brokenText) :
    ReadsNumber setting (numberOfRead r) := by
  cases r with
  | ok s =>
      cases hs : writtenFloat? s.toList with
      | some x =>
          simp only [numberOfRead, hs]
          exact .text h hs
      | none =>
          simp only [numberOfRead, hs]
          exact .badText h hs
  | error problem =>
      cases h with
      | malformed hdata => exact .noText (.malformed hdata)
      | broken => exact absurd rfl hwhole
      | other _ _ _ => exact absurd rfl hr

theorem readsNumber_iff (setting : Setting) (r : Except Problem Float) :
    ReadsNumber setting r ↔ checkNumber setting = r := by
  constructor
  · intro h
    cases h with
    | int hx => simp [checkNumber, hx]
    | wideInt hx => simp [checkNumber, hx]
    | text hs hx => simp [checkNumber_read hs nofun hs.whole, numberOfRead, hx]
    | badText hs hx => simp [checkNumber_read hs nofun hs.whole, numberOfRead, hx]
    | noText hs => rw [checkNumber_read hs (by simp) nofun, numberOfRead]
    | _ => rfl
  · rintro rfl
    cases setting with
    | null => exact .null
    | bool b => cases b with
      | true => exact .true
      | false => exact .false
    | int n =>
        cases hx : Decimal.ofInt? n with
        | none =>
            simp only [checkNumber, hx]
            exact .wideInt hx
        | some x =>
            simp only [checkNumber, hx]
            exact .int hx
    | float x => exact .float
    | text s =>
        rw [checkNumber_read .text nofun nofun]
        exact readsNumber_read .text nofun nofun
    | brokenText => exact .broken
    | bytes data =>
        have hr := readsText_bytes data
        rw [checkNumber_read (readsText_checkText _) hr nofun]
        exact readsNumber_read (readsText_checkText _) hr nofun
    | other given => exact .other

theorem readsTimeout_iff (setting : Setting) (r : Except Problem (Option Float)) :
    ReadsTimeout setting r ↔ checkTimeout setting = r := by
  have hdo : setting ≠ .null → checkTimeout setting = checkNumber setting >>= fun x =>
      if 0.0 < x then .ok (some x) else .error .notPositive := by
    intro hne
    cases setting with
    | null => exact absurd rfl hne
    | _ => rfl
  constructor
  · intro h
    cases h with
    | never => rfl
    | seconds hne hx hlow =>
        rw [hdo hne, (readsNumber_iff _ _).1 hx]
        simp only [bind, Except.bind, if_pos hlow]
    | low hne hx hlow =>
        rw [hdo hne, (readsNumber_iff _ _).1 hx]
        simp only [bind, Except.bind, if_neg hlow]
    | unread hne hx => rw [hdo hne, (readsNumber_iff _ _).1 hx]; rfl
  · rintro rfl
    by_cases hne : setting = .null
    · subst hne
      exact .never
    · rw [hdo hne]
      cases hx : checkNumber setting with
      | error problem => exact .unread hne ((readsNumber_iff _ _).2 hx)
      | ok x =>
          simp only [bind, Except.bind]
          split
          · next hlow => exact .seconds hne ((readsNumber_iff _ _).2 hx) hlow
          · next hlow => exact .low hne ((readsNumber_iff _ _).2 hx) hlow

theorem orDefault_iff {α : Type} {reads : Setting → Except Problem α → Prop}
    {check : Setting → Except Problem α} {usual r : Except Problem α} {found : Option Setting}
    (h : ∀ setting r, reads setting r ↔ check setting = r) :
    OrDefault reads usual found r ↔ orDefault check usual found = r := by
  constructor
  · intro hr
    cases hr with
    | supplied hread => exact (h _ _).1 hread
    | default => rfl
  · rintro rfl
    cases found with
    | none => exact .default
    | some setting => exact .supplied ((h _ _).2 rfl)

end

section

variable {setting : Field → Option Setting}

theorem findings_eq {α : Type} (field : Field) (result : Except Problem α) :
    findings field result = problemsOf [(field, error? result)] := by
  cases result <;> rfl

theorem optionsOf_ok {secret domain scheme : String} {port : Nat} {timeout : Option Float}
    (h : Validated setting (.ok secret) (.ok domain) (.ok scheme) (.ok port) (.ok timeout)) :
    optionsOf setting = .ok ⟨secret, domain, scheme, port, timeout⟩ := by
  have hsecret := (orDefault_iff readsSecret_iff).1 h.secret
  have hdomain := (orDefault_iff readsText_iff).1 h.domain
  have hscheme := (orDefault_iff readsScheme_iff).1 h.scheme
  have hport := (orDefault_iff readsPort_iff).1 h.port
  have htimeout := (orDefault_iff readsTimeout_iff).1 h.timeout
  unfold optionsOf Connection.defaultDomain Connection.defaultScheme Connection.defaultPort
  rw [hsecret, hdomain, hscheme, hport, htimeout]

theorem optionsOf_error {secret domain scheme : Except Problem String}
    {port : Except Problem Nat} {timeout : Except Problem (Option Float)} {problems : List Finding}
    (h : Validated setting secret domain scheme port timeout)
    (hproblems : problems = problemsOf [(.secret, error? secret), (.domain, error? domain),
      (.scheme, error? scheme), (.port, error? port), (.timeout, error? timeout)])
    (hne : problems ≠ []) : optionsOf setting = .error problems := by
  have hsecret := (orDefault_iff readsSecret_iff).1 h.secret
  have hdomain := (orDefault_iff readsText_iff).1 h.domain
  have hscheme := (orDefault_iff readsScheme_iff).1 h.scheme
  have hport := (orDefault_iff readsPort_iff).1 h.port
  have htimeout := (orDefault_iff readsTimeout_iff).1 h.timeout
  subst hproblems
  unfold optionsOf Connection.defaultDomain Connection.defaultScheme Connection.defaultPort
  simp only [hsecret, hdomain, hscheme, hport, htimeout, findings_eq, problemsOf,
    ← List.filterMap_append, List.cons_append, List.nil_append]
  split
  · exact absurd rfl hne
  · rfl

theorem exists_validated (setting : Field → Option Setting) :
    ∃ secret domain scheme port timeout, Validated setting secret domain scheme port timeout :=
  ⟨_, _, _, _, _, (orDefault_iff readsSecret_iff).2 rfl, (orDefault_iff readsText_iff).2 rfl,
    (orDefault_iff readsScheme_iff).2 rfl, (orDefault_iff readsPort_iff).2 rfl,
    (orDefault_iff readsTimeout_iff).2 rfl⟩

theorem returns_of_problemsOf {α β γ δ ε : Type} {a : Except Problem α} {b : Except Problem β}
    {c : Except Problem γ} {d : Except Problem δ} {e : Except Problem ε} {f g h i j : Field}
    (hnone : problemsOf [(f, error? a), (g, error? b), (h, error? c), (i, error? d),
      (j, error? e)] = []) :
    Returns a ∧ Returns b ∧ Returns c ∧ Returns d ∧ Returns e := by
  cases a <;> cases b <;> cases c <;> cases d <;> cases e <;>
    first
      | exact ⟨⟨_, rfl⟩, ⟨_, rfl⟩, ⟨_, rfl⟩, ⟨_, rfl⟩, ⟨_, rfl⟩⟩
      | cases hnone

def judgementOf (setting : Field → Option Setting) : Except Unresolved Options :=
  if ((setting .secret).getD .null).isGiven then (optionsOf setting).mapError .invalid
  else .error (.refused (.failed (.configuration missingSecret)))

theorem judged_iff {outcome : Except Unresolved Options} :
    Judged setting outcome ↔ judgementOf setting = outcome := by
  constructor
  · intro h
    cases h with
    | secretMissing hblank =>
        have hgiven : ((setting .secret).getD .null).isGiven = false := by
          cases hfound : setting .secret with
          | none => rfl
          | some found => exact blank_iff.1 (hblank found hfound)
        rw [judgementOf, hgiven, if_neg Bool.false_ne_true]
    | options hfound hblank hvalid =>
        rw [judgementOf, hfound, Option.getD_some, if_pos (by simpa [blank_iff] using hblank),
          optionsOf_ok hvalid]
        rfl
    | invalid hfound hblank hvalid hproblems hne =>
        rw [judgementOf, hfound, Option.getD_some, if_pos (by simpa [blank_iff] using hblank),
          optionsOf_error hvalid hproblems hne]
        rfl
  · rintro rfl
    cases hfound : setting .secret with
    | none =>
        rw [judgementOf, hfound]
        exact .secretMissing fun found h => by rw [hfound] at h; cases h
    | some found =>
        by_cases hblank : Blank found
        · rw [judgementOf, hfound, Option.getD_some, blank_iff.1 hblank,
            if_neg Bool.false_ne_true]
          exact .secretMissing fun found' h => by rw [hfound] at h; cases h; exact hblank
        · obtain ⟨secret, domain, scheme, port, timeout, hvalid⟩ := exists_validated setting
          rw [judgementOf, hfound, Option.getD_some, if_pos (by simpa [blank_iff] using hblank)]
          by_cases hnone : problemsOf [(.secret, error? secret), (.domain, error? domain),
              (.scheme, error? scheme), (.port, error? port), (.timeout, error? timeout)] = []
          · obtain ⟨⟨a, rfl⟩, ⟨b, rfl⟩, ⟨c, rfl⟩, ⟨d, rfl⟩, ⟨e, rfl⟩⟩ := returns_of_problemsOf hnone
            rw [optionsOf_ok hvalid]
            exact .options hfound hblank hvalid
          · rw [optionsOf_error hvalid rfl hnone]
            exact .invalid hfound hblank hvalid rfl hnone

end

end QueryShell.Config
