import MediaPaths.Proofs.Url.Domain
import MediaPaths.Url.Basic

/-!
# Hosts are read as they are written

A host that has been read is a name of plain characters, a text of its own, or an address within bounds. It is written
in a form that can be told from the port behind it, and that is read as the same host. The one exception is a domain
name with a label in Punycode: whether that is read again as it is lies with the tables of characters.
-/

namespace MediaPaths.Url

variable {special : Bool} {s : List Char} {host : Host} {c : Char}

namespace Host

/-- What a host is once it has been read. -/
inductive IsRead : Bool → Host → Prop where
  /-- A domain name in its one form. -/
  | domain {d : List Char} (hne : d ≠ []) (hd : ∀ c ∈ d, Domain.IsPlain c) (hnumber : endsInNumber d = false) :
      IsRead true (.name d)
  /-- A text of its own. -/
  | text {t : List Char} (ht : ∀ c ∈ t, isControl c = false ∧ isForbidden c = false) : IsRead false (.name t)
  /-- An IPv4 address. -/
  | ipv4 {n : Nat} (hn : n < 256 ^ 4) : IsRead true (.ipv4 n)
  /-- An IPv6 address. -/
  | ipv6 {special : Bool} {ps : List Nat} (hlength : ps.length = 8) (hps : ∀ p ∈ ps, p < 65536) :
      IsRead special (.ipv6 ps)

/-! ## What is read -/

theorem isRead_of_bracketed (h : bracketed s = .ok host) : IsRead special host := by
  unfold bracketed at h
  split at h
  · split at h
    · rename_i hps
      cases h
      obtain ⟨hlength, hps⟩ := ipv6?_bounds hps
      exact .ipv6 hlength hps
    · cases h
  · cases h

theorem isRead_of_special (h : Host.special s = .ok host) : IsRead true host := by
  unfold Host.special at h
  split at h
  · exact isRead_of_bracketed h
  · split at h
    · cases h
    · cases h
    · rename_i d hne hd
      obtain ⟨text, -, hd⟩ := Option.bind_eq_some_iff.1 hd
      split at h
      · split at h
        · rename_i hn
          cases h
          exact .ipv4 (ipv4?_lt hn)
        · cases h
      · rename_i hnumber
        cases h
        exact .domain (fun hnil => hne hnil) (Domain.isPlain_of_toAscii? hd) (by simpa using hnumber)

theorem of_mem_codeChars (h : c ∈ codeChars) :
    isControl c = false ∧ isForbidden c = false ∧ inUserinfoSet c = false := by
  have hall : codeChars.all (fun c => decide (isControl c = false ∧ isForbidden c = false ∧
      inUserinfoSet c = false)) = true := by decide
  exact of_decide_eq_true (List.all_eq_true.1 hall c h)

theorem isRead_of_plain (h : plain s = .ok host) : IsRead false host := by
  unfold plain at h
  split at h
  · exact isRead_of_bracketed h
  · split at h
    · cases h
    · rename_i hforbidden
      cases h
      refine .text fun c hc => ?_
      rcases mem_percentEncode hc with ⟨hmem, hcontrol⟩ | hc
      · exact ⟨hcontrol, by simpa using fun hbad => hforbidden (List.any_eq_true.2 ⟨c, hmem, hbad⟩)⟩
      · exact ⟨(of_mem_codeChars hc).1, (of_mem_codeChars hc).2.1⟩

theorem isRead_of_read (h : read special s = .ok host) : IsRead special host := by
  cases special with
  | true => exact isRead_of_special h
  | false => exact isRead_of_plain h

/-! ## What is written -/

/-- A character of a host as it is written: it is seen, ends no authority and is not the sign behind credentials. -/
def IsWritten (c : Char) : Prop := 0x20 < c.toNat ∧ c ∉ ['/', '?', '#', '\\', '@']

instance (c : Char) : Decidable (IsWritten c) := inferInstanceAs (Decidable (_ ∧ _))

theorem isWritten_of_isPlain (h : Domain.IsPlain c) : IsWritten c ∧ c ≠ ':' ∧ c ≠ '[' := by
  have hallowed := h.allowed
  simp only [Domain.isForbidden, Bool.or_eq_false_iff, decide_eq_false_iff_not, not_le, beq_eq_false_iff_ne, ne_eq,
    List.contains_eq_mem, List.mem_cons, List.not_mem_nil, or_false, not_or] at hallowed
  simp only [IsWritten, List.mem_cons, List.not_mem_nil, or_false, not_or]
  tauto

theorem isWritten_of_not_isForbidden (hcontrol : isControl c = false) (h : isForbidden c = false) :
    IsWritten c ∧ c ≠ ':' ∧ c ≠ '[' := by
  simp only [isControl, Bool.or_eq_false_iff, decide_eq_false_iff_not, not_lt] at hcontrol
  simp only [isForbidden, List.contains_eq_mem, decide_eq_false_iff_not, List.mem_cons, List.not_mem_nil, or_false,
    not_or] at h
  have hspace : c.toNat ≠ 0x20 := fun heq => h.2.2.2.2.1 (Char.toNat_inj.1 heq)
  simp only [IsWritten, List.mem_cons, List.not_mem_nil, or_false, not_or]
  refine ⟨⟨by omega, ?_⟩, ?_⟩ <;> tauto

theorem isPlain_of_mem_writeIpv4 {n : Nat} (hc : c ∈ writeIpv4 n) : Domain.IsPlain c ∧ c ≠ 'x' := by
  rcases mem_writeIpv4 hc with hc | rfl
  · have hall : ∀ n < 0x80, (Char.ofNat n).isDigit = true → Domain.IsPlain (Char.ofNat n) ∧ Char.ofNat n ≠ 'x' := by
      decide
    have hlt : c.toNat < 0x80 := by
      have := (Char.isDigit_iff_toNat.1 hc).2
      exact Nat.lt_of_le_of_lt this (by decide)
    simpa using hall c.toNat hlt (by simpa using hc)
  · decide

theorem isWritten_of_mem_address (hc : c = ':' ∨ c ∈ digitChars) : IsWritten c ∧ c ≠ ']' := by
  have hall : (':' :: digitChars).all (fun c => decide (IsWritten c ∧ c ≠ ']')) = true := by decide
  exact of_decide_eq_true (List.all_eq_true.1 hall c (List.mem_cons.2 hc))

theorem IsRead.isWritten (h : IsRead special host) (hc : c ∈ host.write) : IsWritten c := by
  cases h with
  | domain _ hd _ => exact (isWritten_of_isPlain (hd c hc)).1
  | text ht => exact (isWritten_of_not_isForbidden (ht c hc).1 (ht c hc).2).1
  | ipv4 _ => exact (isWritten_of_isPlain (isPlain_of_mem_writeIpv4 hc).1).1
  | ipv6 hlength hps =>
    obtain ⟨inner, hwrite, -, hinner⟩ := exists_writeIpv6 hlength hps
    rw [write, hwrite] at hc
    simp only [List.mem_cons, List.mem_append, List.not_mem_nil, or_false] at hc
    rcases hc with rfl | hc | rfl
    · decide
    · exact (isWritten_of_mem_address (hinner c hc)).1
    · decide

theorem write_ne_nil (h : host.isEmpty = false) : host.write ≠ [] := by
  cases host with
  | name t =>
    rintro rfl
    cases h
  | ipv4 n => simp [write, writeIpv4]
  | ipv6 ps =>
    simp only [write, writeIpv6]
    split <;> simp

/-! ## Splitting a host from a port -/

theorem splitHost_colon (hrest : s = [] ∨ s.head? = some ':') : splitHost false s = ([], s) := by
  rcases hrest with rfl | hrest
  · rfl
  · obtain ⟨t, rfl⟩ := List.head?_eq_some_iff.1 hrest
    rfl

theorem splitHost_plain {text : List Char} (h : ∀ c ∈ text, c ≠ ':' ∧ c ≠ '[') (hrest : s = [] ∨ s.head? = some ':') :
    splitHost false (text ++ s) = (text, s) := by
  induction text with
  | nil => exact splitHost_colon hrest
  | cons c text ih =>
    obtain ⟨hcolon, hbracket⟩ := h c (List.mem_cons_self ..)
    have hnext := ih fun d hd => h d (List.mem_cons_of_mem _ hd)
    simp [splitHost, hcolon, hbracket, hnext]

theorem splitHost_bracketed {inner : List Char} (h : ∀ c ∈ inner, c ≠ ']') (hrest : s = [] ∨ s.head? = some ':') :
    splitHost true (inner ++ ']' :: s) = (inner ++ [']'], s) := by
  induction inner with
  | nil => simp [splitHost, splitHost_colon hrest]
  | cons c inner ih =>
    have hc : c ≠ ']' := h c (List.mem_cons_self ..)
    have hnext := ih fun d hd => h d (List.mem_cons_of_mem _ hd)
    simp [splitHost, hc, hnext]

/-- What is written for a host is split from what is written for a port. -/
theorem IsRead.splitHost_write (h : IsRead special host) (hrest : s = [] ∨ s.head? = some ':') :
    splitHost false (host.write ++ s) = (host.write, s) := by
  cases h with
  | domain _ hd _ => exact splitHost_plain (fun c hc => (isWritten_of_isPlain (hd c hc)).2) hrest
  | text ht => exact splitHost_plain (fun c hc => (isWritten_of_not_isForbidden (ht c hc).1 (ht c hc).2).2) hrest
  | ipv4 _ => exact splitHost_plain (fun c hc => (isWritten_of_isPlain (isPlain_of_mem_writeIpv4 hc).1).2) hrest
  | ipv6 hlength hps =>
    obtain ⟨inner, hwrite, -, hinner⟩ := exists_writeIpv6 hlength hps
    have hclosed := splitHost_bracketed (fun c hc => (isWritten_of_mem_address (hinner c hc)).2) hrest
    simp [write, hwrite, splitHost, hclosed]

/-! ## Reading what is written -/

/-- A name of plain characters that is the one form of itself is read as it is, or as the address that it writes. -/
theorem special_of_isPlain (h : ∀ c ∈ s, Domain.IsPlain c) (hne : s ≠ []) (hform : Domain.toAscii? s = some s) :
    (endsInNumber s = false → Host.special s = .ok (.name s)) ∧
    ∀ n, endsInNumber s = true → ipv4? s = some n → Host.special s = .ok (.ipv4 n) := by
  have hpercent : ∀ c ∈ s, c.toNat < 0x80 ∧ c ≠ '%' := by
    refine fun c hc => ⟨(h c hc).ascii, ?_⟩
    rintro rfl
    exact absurd (h _ hc).allowed (by decide)
  have hread : (Utf8.decode? (percentDecode s)).bind Domain.toAscii? = some s := by
    rw [percentDecode_of_ascii hpercent, Utf8.decode?_of_ascii fun c hc => (h c hc).ascii, Option.bind_some, hform]
  obtain ⟨d, t, rfl⟩ := List.exists_cons_of_ne_nil hne
  have hbracket : d ≠ '[' := (isWritten_of_isPlain (h d (List.mem_cons_self ..))).2.2
  unfold Host.special
  split
  · rename_i heq
    cases heq
    exact absurd rfl hbracket
  · rw [hread]
    exact ⟨fun hnumber => by simp [hnumber], fun n hnumber hn => by simp [hnumber, hn]⟩

theorem not_hasCode_writeIpv4 (n : Nat) : ¬ Domain.HasCode (writeIpv4 n) := by
  rintro ⟨label, hlabel, hcode⟩
  have hx : 'x' ∈ label := hcode.subset (List.mem_cons_self ..)
  exact (isPlain_of_mem_writeIpv4 (mem_of_mem_splitOn hlabel hx)).2 rfl

theorem bracketed_write {ps : List Nat} (hlength : ps.length = 8) (hps : ∀ p ∈ ps, p < 65536) :
    ∃ inner, (ipv6 ps).write = '[' :: inner ∧ bracketed inner = .ok (.ipv6 ps) := by
  obtain ⟨inner, hwrite, hread, -⟩ := exists_writeIpv6 hlength hps
  refine ⟨inner ++ [']'], hwrite, ?_⟩
  simp [bracketed, hread]

/-- A host is read from what is written for it. For a domain name with a label in Punycode that is so if the name is the
one form of itself. -/
theorem IsRead.read_write (h : IsRead special host)
    (hcode : ∀ d, host = .name d → special = true → Domain.HasCode d → Domain.toAscii? d = some d) :
    read special host.write = .ok host := by
  cases h with
  | domain hne hd hnumber =>
    rename_i d
    have hform : Domain.toAscii? d = some d := by
      by_cases h : Domain.HasCode d
      · exact hcode d rfl rfl h
      · exact Domain.toAscii?_of_isPlain hd h
    exact (special_of_isPlain hd hne hform).1 hnumber
  | text ht =>
    rename_i t
    have hany : t.any isForbidden = false := by simpa using fun c hc => (ht c hc).2
    change plain t = _
    unfold plain
    split
    · exact absurd (ht '[' (List.mem_cons_self ..)).2 (by decide)
    · rw [hany, percentEncode_eq_self fun c hc => (ht c hc).1]
      rfl
  | ipv4 hn =>
    rename_i n
    have hplain : ∀ c ∈ writeIpv4 n, Domain.IsPlain c := fun c hc => (isPlain_of_mem_writeIpv4 hc).1
    have hform := Domain.toAscii?_of_isPlain hplain (not_hasCode_writeIpv4 n)
    have hne : writeIpv4 n ≠ [] := by simp [writeIpv4]
    exact (special_of_isPlain hplain hne hform).2 n (endsInNumber_writeIpv4 n) (ipv4?_writeIpv4 hn)
  | ipv6 hlength hps =>
    obtain ⟨inner, hwrite, hread⟩ := bracketed_write hlength hps
    rw [hwrite]
    cases special <;> exact hread

end Host

end MediaPaths.Url
