import InfraConfig.Proofs.Text.Lowering
import InfraConfig.Source.ProviderAddress

/-! Addresses of providers that mean the same. An address has one complete written form, which is
read back as it was; the case of ASCII letters and blanks at the ends do not count, and a host name
or a namespace may be left out where it is the default (`ProviderAddress.parse_canonical`). Each
part of an address is lowered by itself, whatever the parts around it, since no word goes across a
slash. -/
namespace InfraConfig.ProviderAddress

open Text

/-! ### Parts of an address -/

/-- A text that may stand between the slashes of an address. -/
def IsPart (s : List Char) : Prop := '/' ∉ s ∧ trim s = s

section Parts
variable {hostname space type : List Char}

theorem isWordBreak_slash : isWordBreak '/' = true := by decide +kernel

theorem not_mem_lower {s : List Char} (h : '/' ∉ s) : '/' ∉ lower s :=
  fun hmem => h (mem_of_mem_lower (by decide) hmem)

theorem lower_slash (s rest : List Char) :
    lower (s ++ '/' :: rest) = lower s ++ '/' :: lower rest :=
  lower_append isWordBreak_slash s rest

theorem trim_slash {s rest : List Char} (hs : trim s = s) (hrest : trim rest = rest) :
    trim (s ++ '/' :: rest) = s ++ '/' :: rest :=
  trim_append_cons hs hrest (by decide)

theorem ofChars_type (htype : IsPart type) :
    ofChars type = ofSegments defaultHostname defaultNamespace (lower type) := by
  rw [ofChars, htype.2, splitAll_of_not_mem (not_mem_lower htype.1)]

theorem ofChars_space (hspace : IsPart space) (htype : IsPart type) :
    ofChars (space ++ '/' :: type) = ofSegments defaultHostname (lower space) (lower type) := by
  rw [ofChars, trim_slash hspace.2 htype.2, lower_slash, splitAll_append (not_mem_lower hspace.1),
    splitAll_of_not_mem (not_mem_lower htype.1)]

theorem ofChars_hostname (hhostname : IsPart hostname) (hspace : IsPart space)
    (htype : IsPart type) :
    ofChars (hostname ++ '/' :: (space ++ '/' :: type)) =
      ofSegments (lower hostname) (lower space) (lower type) := by
  rw [ofChars, trim_slash hhostname.2 (trim_slash hspace.2 htype.2), lower_slash, lower_slash,
    splitAll_append (not_mem_lower hhostname.1), splitAll_append (not_mem_lower hspace.1),
    splitAll_of_not_mem (not_mem_lower htype.1)]

end Parts

/-! ### Complete addresses -/

/-- A character of a part that is accepted. -/
def isPartChar (c : Char) : Bool :=
  isAddressChar c || c == '-' || c == '_' || c == '.' || c == ':' || isDecimalDigit c

variable {hostname space type s : List Char} {source : ProviderAddress}

theorem isBlank_of_isPartChar {c : Char} (h : isPartChar c = true) : isBlank c = false :=
  isBlank_eq_false_of_class (by decide +kernel) h

theorem isLowered_of_isPartChar {c : Char} (h : isPartChar c = true) : IsLowered c := by
  simp only [isPartChar, isAddressChar, Bool.or_eq_true, beq_iff_eq] at h
  rcases h with ((((haddress | rfl) | rfl) | rfl) | rfl) | hdigit
  · rcases haddress with hletter | hdigit
    · simp only [Char.isLower, Bool.and_eq_true, decide_eq_true_eq] at hletter
      have hhigh : c.toNat ≤ 'z'.toNat := hletter.2
      refine isLowered_of_ascii (Nat.lt_of_le_of_lt hhigh (by decide)) fun hcapital => ?_
      have hle : 'a'.val ≤ 'Z'.val := UInt32.le_trans hletter.1 hcapital.2
      exact absurd hle (by decide)
    · have hascii : c.toNat < asciiEnd := by
        simp only [Char.isDigit, Bool.and_eq_true, decide_eq_true_eq] at hdigit
        have hhigh : c.toNat ≤ '9'.toNat := hdigit.2
        exact Nat.lt_of_le_of_lt hhigh (by decide)
      exact isLowered_of_isDecimalDigit (by rw [isDecimalDigit_of_ascii hascii, hdigit])
  case inr => exact isLowered_of_isDecimalDigit hdigit
  all_goals exact ⟨by decide, by decide⟩

theorem isPart_of_forall (h : ∀ c ∈ s, isPartChar c = true) : IsPart s := by
  constructor
  · exact fun hmem => absurd (h _ hmem) (by decide +kernel)
  · exact trim_eq_self (fun c hc => isBlank_of_isPartChar (h c (List.mem_of_mem_head? hc)))
      (fun c hc => isBlank_of_isPartChar (h c (List.mem_of_mem_getLast? hc)))

theorem lower_of_forall (h : ∀ c ∈ s, isPartChar c = true) : lower s = s :=
  lower_eq_self fun c hc => isLowered_of_isPartChar (h c hc)

theorem isPartChar_of_isSegment (h : isSegment s = true) : ∀ c ∈ s, isPartChar c = true := by
  intro c hc
  rw [isSegment, Bool.and_eq_true, List.all_eq_true] at h
  have hchar := h.1 c hc
  simp only [isPartChar, Bool.or_eq_true] at hchar ⊢
  tauto

theorem isPartChar_of_labels (h : (splitAll '.' s).all isLabel = true) :
    ∀ c ∈ s, isPartChar c = true := by
  intro c hc
  obtain hpoint | ⟨label, hlabel, hc⟩ : c = '.' ∨ ∃ label ∈ splitAll '.' s, c ∈ label :=
    exists_mem_splitAll hc
  · rw [hpoint]
    rfl
  · have hvalid := List.all_eq_true.1 h label hlabel
    simp only [isLabel, Bool.and_eq_true, List.all_eq_true] at hvalid
    have hchar := hvalid.1.1 c hc
    simp only [isPartChar, Bool.or_eq_true] at hchar ⊢
    tauto

theorem isPartChar_of_isHostname (h : isHostname s = true) : ∀ c ∈ s, isPartChar c = true := by
  rw [isHostname] at h
  cases hsplit : splitFirst? [':'] s with
  | none =>
    simp only [hsplit, Bool.and_eq_true] at h
    exact isPartChar_of_labels h.2
  | some parts =>
    obtain ⟨name, port⟩ := parts
    simp only [hsplit, Bool.and_eq_true, List.all_eq_true (l := port)] at h
    intro c hc
    rw [splitFirst?_eq hsplit, List.append_assoc, List.singleton_append] at hc
    rcases List.mem_append.1 hc with hname | hport
    · exact isPartChar_of_labels h.2 c hname
    · rcases List.mem_cons.1 hport with rfl | hport
      · rfl
      · rw [isPartChar, h.1.1.2 c hport, Bool.or_true]

theorem ofSegments_eq_ok (h : ofSegments hostname space type = .ok source) :
    isHostname hostname = true ∧ isSegment space = true ∧ isSegment type = true ∧
      source = ⟨String.ofList hostname, String.ofList space, String.ofList type⟩ := by
  unfold ofSegments at h
  split at h
  · cases h
  · split at h
    · cases h
    · split at h
      · cases h
      · cases h
        simp_all

theorem exists_segments (h : ofChars s = .ok source) :
    ∃ hostname space type, ofSegments hostname space type = .ok source := by
  unfold ofChars at h
  split at h
  case h_4 => cases h
  all_goals exact ⟨_, _, _, h⟩

theorem toList_text (hostname space type : List Char) :
    (text ⟨String.ofList hostname, String.ofList space, String.ofList type⟩).toList =
      hostname ++ '/' :: (space ++ '/' :: type) := by
  have htext : text ⟨String.ofList hostname, String.ofList space, String.ofList type⟩ =
    String.ofList hostname ++ "/" ++ String.ofList space ++ "/" ++ String.ofList type := rfl
  rw [htext]
  simp

/-- An address is read back from its complete form. -/
theorem ofChars_text (h : ofChars s = .ok source) : ofChars source.text.toList = .ok source := by
  obtain ⟨hostname, space, type, hread⟩ := exists_segments h
  obtain ⟨hhostname, hspace, htype, rfl⟩ := ofSegments_eq_ok hread
  have hhostname := isPartChar_of_isHostname hhostname
  have hspace := isPartChar_of_isSegment hspace
  have htype := isPartChar_of_isSegment htype
  rw [toList_text, ofChars_hostname (isPart_of_forall hhostname) (isPart_of_forall hspace)
    (isPart_of_forall htype), lower_of_forall hhostname, lower_of_forall hspace,
    lower_of_forall htype, hread]

/-! ### Addresses that are read alike -/

/-- Two addresses that differ in nothing but the case of ASCII letters and blanks at their ends. -/
def SameLetters (a b : String) : Prop :=
  (trim a.toList).map Char.toLower = (trim b.toList).map Char.toLower

theorem ofChars_eq_of_sameLetters {a b : String} (h : SameLetters a b) :
    ofChars a.toList = ofChars b.toList := by
  have hlower : lower (trim a.toList) = lower (trim b.toList) := by
    rw [← lower_map_toLower, h, lower_map_toLower]
  rw [ofChars, ofChars, hlower]

/-! ### Outcomes -/

/-- What becomes of an address, but for the echo of it in a refusal. -/
def outcome (address : String) : Except AddressFault ProviderAddress :=
  (parse address).mapError InvalidAddress.fault

theorem outcome_eq (address : String) : outcome address = ofChars address.toList := by
  rw [outcome, parse]
  cases ofChars address.toList <;> rfl

theorem parse_eq_ok_iff {address : String} :
    parse address = .ok source ↔ ofChars address.toList = .ok source := by
  rw [parse]
  cases ofChars address.toList <;> simp

theorem isPart_defaultHostname : IsPart defaultHostname ∧ lower defaultHostname = defaultHostname :=
  have hchars := isPartChar_of_isHostname (s := defaultHostname) (by decide)
  ⟨isPart_of_forall hchars, lower_of_forall hchars⟩

theorem isPart_defaultNamespace :
    IsPart defaultNamespace ∧ lower defaultNamespace = defaultNamespace :=
  have hchars := isPartChar_of_isSegment (s := defaultNamespace) (by decide)
  ⟨isPart_of_forall hchars, lower_of_forall hchars⟩

section Defaults
variable {space type : String} (hspace : IsPart space.toList) (htype : IsPart type.toList)
include htype

/-- The default namespace may be left out. -/
theorem outcome_defaultNamespace : outcome ("hashicorp/" ++ type) = outcome type := by
  have hchars : ("hashicorp/" ++ type).toList = defaultNamespace ++ '/' :: type.toList := by
    rw [String.toList_append]
    rfl
  obtain ⟨hdefault, hlower⟩ := isPart_defaultNamespace
  rw [outcome_eq, outcome_eq, hchars, ofChars_space hdefault htype, ofChars_type htype, hlower]

include hspace

/-- The default host name may be left out before a namespace. -/
theorem outcome_defaultHostname :
    outcome ("registry.terraform.io/" ++ (space ++ "/" ++ type)) =
      outcome (space ++ "/" ++ type) := by
  have hchars : (space ++ "/" ++ type).toList = space.toList ++ '/' :: type.toList := by
    simp
  have hfull : ("registry.terraform.io/" ++ (space ++ "/" ++ type)).toList =
      defaultHostname ++ '/' :: (space.toList ++ '/' :: type.toList) := by
    rw [String.toList_append, hchars]
    rfl
  obtain ⟨hdefault, hlower⟩ := isPart_defaultHostname
  rw [outcome_eq, outcome_eq, hchars, hfull, ofChars_hostname hdefault hspace htype,
    ofChars_space hspace htype, hlower]

end Defaults

/-- An address is read back from its complete form; the case of ASCII letters and blanks at the ends
do not count; and the default host name and namespace may be left out or written. -/
theorem parse_canonical (a : String) :
    (∀ source, parse a = .ok source → parse source.text = .ok source) ∧
      (∀ b, SameLetters a b → outcome a = outcome b) ∧
      ∀ space type : String, IsPart space.toList → IsPart type.toList →
        outcome ("hashicorp/" ++ type) = outcome type ∧
          outcome ("registry.terraform.io/hashicorp/" ++ type) = outcome type ∧
          outcome ("registry.terraform.io/" ++ (space ++ "/" ++ type)) =
            outcome (space ++ "/" ++ type) := by
  refine ⟨fun source h => ?_, fun b h => ?_, fun space type hspace htype => ?_⟩
  · exact parse_eq_ok_iff.2 (ofChars_text (parse_eq_ok_iff.1 h))
  · rw [outcome_eq, outcome_eq, ofChars_eq_of_sameLetters h]
  · have hdefault := outcome_defaultNamespace htype
    have hwritten : IsPart "hashicorp".toList := isPart_defaultNamespace.1
    have hfull := outcome_defaultHostname hwritten htype
    have htext : "hashicorp" ++ "/" ++ type = "hashicorp/" ++ type := rfl
    rw [htext, hdefault] at hfull
    refine ⟨hdefault, ?_, outcome_defaultHostname hspace htype⟩
    rw [← hfull, ← String.append_assoc]
    rfl

/-- A port in Arabic digits, capitals and blanks around; and a Kelvin sign in a namespace, which is
a small letter in lower case. -/
theorem parse_canonical_port_and_sign :
    (parse " Example.COM:\u0663/ACME/Wid_get\n" =
        .ok ⟨"example.com:\u0663", "acme", "wid_get"⟩ ∧
      parse "example.com:\u0663/acme/wid_get" = .ok ⟨"example.com:\u0663", "acme", "wid_get"⟩) ∧
    (SameLetters " Example.COM:\u0663/ACME/Wid_get\n" "eXAMPLE.com:\u0663/acme/wID_GET" ∧
      outcome " Example.COM:\u0663/ACME/Wid_get\n" = outcome "eXAMPLE.com:\u0663/acme/wID_GET") ∧
    (IsPart "\u212aube".toList ∧ IsPart "Aws".toList ∧
      outcome ("registry.terraform.io/" ++ ("\u212aube" ++ "/" ++ "Aws")) =
        outcome ("\u212aube" ++ "/" ++ "Aws") ∧
      outcome ("\u212aube" ++ "/" ++ "Aws") =
        .ok ⟨"registry.terraform.io", "kube", "aws"⟩) := by
  obtain ⟨hback, hletters, hdefaults⟩ := parse_canonical " Example.COM:\u0663/ACME/Wid_get\n"
  have hread : parse " Example.COM:\u0663/ACME/Wid_get\n" =
      .ok ⟨"example.com:\u0663", "acme", "wid_get"⟩ := by decide +kernel
  have hsame : SameLetters " Example.COM:\u0663/ACME/Wid_get\n"
      "eXAMPLE.com:\u0663/acme/wID_GET" := by
    unfold SameLetters
    decide +kernel
  have hspace : IsPart "\u212aube".toList := ⟨by decide, by decide +kernel⟩
  have htype : IsPart "Aws".toList := ⟨by decide, by decide +kernel⟩
  refine ⟨⟨hread, hback _ hread⟩, ⟨hsame, hletters _ hsame⟩, hspace, htype, ?_, ?_⟩
  · exact (hdefaults _ _ hspace htype).2.2
  · decide +kernel

end InfraConfig.ProviderAddress
