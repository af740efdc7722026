import Mathlib.Data.List.Chain
import StatelessSession.Proofs.Sql.Scanner

/-!
# Lexemes and their neighbours

Whether bytes are a lexeme depends on what follows them, but on no more than the first byte of it.
So a sequence of lexemes reads back as itself if each admits the next one, and of the tokens only a
few kinds do not admit each other.

* `Admits` -- what may follow a lexeme; `isLexeme_iff_good` -- that is all there is to say of it.
* **`lexemes_joined_iff`** -- lexemes read back as themselves if and only if neighbours admit each
  other.
* `Clash` -- two words, two string literals or two dashes; `not_clash_of_before` -- neighbours in a
  text do not clash.
* `lexemes_of_isCalm` -- most kinds admit all that they do not clash with.
* `admits_opening`, `admits_closing` -- with what stands at the ends of a literal, nothing else is
  in the way.

NOT here: which literals there are (`Proofs.Sql.Literals`).
-/

namespace StatelessSession.Sql

variable {b : UInt8} {u v w : List UInt8} {k : LexemeKind} {l m : Lexeme} {ls : List Lexeme}

/-! ## 1. What may follow -/

/-- Whether a lexeme `u` of a kind stays one when `v` follows. -/
def Admits (k : LexemeKind) (u v : List UInt8) : Prop :=
  match k with
  | .blank | .blockComment | .token .placeholder => True
  | .lineComment => '\n'.toUInt8 ∈ u ∨ v = []
  | .token .string => v.head? ≠ some '\''.toUInt8
  | .token .quotedName => ∀ x ∈ u.head?, v.head? ≠ some x
  | .token .word => ∀ x ∈ v.head?, isWordByte x = false
  | .token (.symbol _) => ∀ x ∈ u.head?, ¬ OpensLine x v ∧ ¬ OpensBlock x v

theorem IsLexeme.admits (h : IsLexeme Counted k u v) : Admits k u v := by
  cases h with
  | blank hb => trivial
  | lineComment hu => exact .inl (by simp)
  | lastComment hu => exact .inr rfl
  | blockComment hu => trivial
  | string hu hv => exact hv
  | quotedName hq hu hv =>
    intro x hx
    cases hx
    exact hv
  | placeholder => trivial
  | word hu hv => exact hv
  | symbol hb hw hs hn hp hl hc =>
    intro x hx
    cases hx
    exact ⟨hl, hc⟩

/-- A lexeme stays one whatever admissible follows. -/
theorem IsLexeme.follow (h : IsLexeme Counted k u v) (ha : Admits k u w) :
    IsLexeme Counted k u w := by
  cases h with
  | blank hb => exact .blank hb
  | lineComment hu => exact .lineComment hu
  | lastComment hu =>
    rcases ha with ha | rfl
    · simp only [List.mem_cons] at ha
      rcases ha with ha | ha | ha
      · exact absurd ha (by decide)
      · exact absurd ha (by decide)
      · exact absurd ha hu
    · exact .lastComment hu
  | blockComment hu => exact .blockComment hu
  | string hu hv => exact .string hu ha
  | quotedName hq hu hv => exact .quotedName hq hu (ha _ rfl)
  | placeholder => exact .placeholder
  | word hu hv => exact .word hu ha
  | symbol hb hw hs hn hp hl hc =>
    obtain ⟨hl, hc⟩ := ha _ rfl
    exact .symbol hb hw hs hn hp hl hc

theorem admits_nil : Admits k u [] := by
  cases k with
  | token kind =>
    cases kind with
    | word => exact nofun
    | string => exact nofun
    | quotedName => exact fun x _ => nofun
    | placeholder => trivial
    | symbol c => exact fun x _ => ⟨nofun, nofun⟩
  | lineComment => exact .inr rfl
  | _ => trivial

/-- Only the first byte matters. -/
theorem admits_append (hv : v ≠ []) : Admits k u (v ++ w) ↔ Admits k u v := by
  cases v with
  | nil => exact absurd rfl hv
  | cons b v =>
    cases k with
    | lineComment => simp [Admits]
    | token kind => cases kind <;> rfl
    | _ => rfl

/-- The bytes of a piece are a lexeme if something fit follows. -/
def Piece.Good (p : Piece) : Prop := ∃ v, IsLexeme Counted p.kind p.bytes v

theorem Piece.Good.ne_nil {p : Piece} (h : p.Good) : p.bytes ≠ [] := by
  obtain ⟨v, h⟩ := h
  exact h.ne_nil

/-- **What may follow is all that a lexeme asks of its neighbour.** -/
theorem isLexeme_iff_good {p : Piece} :
    IsLexeme Counted p.kind p.bytes v ↔ p.Good ∧ Admits p.kind p.bytes v := by
  constructor
  · exact fun h => ⟨⟨v, h⟩, h.admits⟩
  · intro ⟨⟨v, h⟩, ha⟩
    exact h.follow ha

/-! ## 2. Lexemes in a row -/

/-- One piece admits the next. -/
def Piece.Before (p q : Piece) : Prop := Admits p.kind p.bytes q.bytes

theorem lexed_cons_iff {p : Piece} {ps : List Piece} {t : List UInt8} :
    Lexed Counted (p.bytes ++ t) (p :: ps) [] ↔
      IsLexeme Counted p.kind p.bytes t ∧ Lexed Counted t ps [] := by
  rw [lexed_iff]
  constructor
  · intro h
    rcases h with ⟨e, -⟩ | ⟨k, u, v, qs, e, ⟨h, ht⟩, hs⟩
    · cases e
    · cases e
      rw [List.append_cancel_left ht]
      exact ⟨h, hs⟩
  · intro ⟨h, hs⟩
    exact .inr ⟨_, _, _, _, rfl, ⟨h, rfl⟩, hs⟩

/-- **Pieces in a row are read as such if and only if neighbours admit each other.** -/
theorem lexed_flatMap_iff (ps : List Piece) :
    Lexed Counted (ps.flatMap Piece.bytes) ps [] ↔
      (∀ p ∈ ps, p.Good) ∧ ps.IsChain Piece.Before := by
  induction ps with
  | nil => exact iff_of_true (.done _) ⟨nofun, .nil⟩
  | cons p ps ih =>
    rw [List.flatMap_cons, lexed_cons_iff, ih, isLexeme_iff_good, List.isChain_cons,
      List.forall_mem_cons]
    have hnext : (∀ p ∈ ps, p.Good) →
        (Admits p.kind p.bytes (ps.flatMap Piece.bytes) ↔ ∀ q ∈ ps.head?, p.Before q) := by
      intro hg
      cases ps with
      | nil => exact iff_of_true admits_nil nofun
      | cons q ps =>
        rw [List.flatMap_cons, admits_append (hg q List.mem_cons_self).ne_nil]
        exact ⟨fun h q' hq => (by cases hq; exact h), fun h => h q rfl⟩
    constructor
    · intro ⟨⟨hp, ha⟩, hg, hc⟩
      exact ⟨⟨hp, hg⟩, (hnext hg).1 ha, hc⟩
    · intro ⟨⟨hp, hg⟩, ha, hc⟩
      exact ⟨⟨hp, (hnext hg).2 ha⟩, hg, hc⟩

theorem utf8_injective {s t : List Char} (h : utf8 s = utf8 t) : s = t := by
  have hb : (String.ofList s).toByteArray = (String.ofList t).toByteArray := by
    rw [String.toByteArray_ofList, String.toByteArray_ofList]
    exact congrArg List.toByteArray h
  exact String.ofList_injective (String.toByteArray_inj.1 hb)

theorem piece_injective : Function.Injective Lexeme.piece := by
  intro ⟨k, s⟩ ⟨k', t⟩ h
  obtain ⟨hk, ht⟩ := Piece.mk.inj h
  have hs : s = t := utf8_injective ht
  rw [show k = k' from hk, hs]

theorem utf8_joined (ls : List Lexeme) :
    utf8 (joined ls) = (ls.map Lexeme.piece).flatMap Piece.bytes := by
  induction ls with
  | nil => rfl
  | cons l ls ih =>
    rw [joined_cons, utf8_append, ih, List.map_cons, List.flatMap_cons]
    rfl

/-- **Lexemes read back as themselves if and only if each is good and neighbours admit each
    other.** -/
theorem lexemes_joined_iff (ls : List Lexeme) :
    lexemes (joined ls) = .ok ls ↔
      (∀ l ∈ ls, l.piece.Good) ∧ ls.IsChain fun l m => l.piece.Before m.piece := by
  have h := lexed_iff_lexemesFrom 0 (joined ls) (ls.map Lexeme.piece)
  rw [utf8_joined, lexed_flatMap_iff, List.forall_mem_map, List.isChain_map] at h
  rw [h]
  constructor
  · exact fun hl => ⟨ls, hl, rfl⟩
  · intro ⟨ms, hms, e⟩
    have he : ls = ms := List.map_injective_iff.2 piece_injective e
    subst he
    exact hms

/-! ## 3. Kinds that do not admit each other -/

/-- Two words, two string literals or two dashes. -/
def Clash (k k' : LexemeKind) : Prop :=
  k = k' ∧ (k = .token .word ∨ k = .token .string ∨ k = .token (.symbol '-'))

instance (k k' : LexemeKind) : Decidable (Clash k k') := instDecidableAnd

/-- How a literal begins: with a word, a string literal or a dash. -/
def Opening (k : LexemeKind) : Prop :=
  k = .token .word ∨ k = .token .string ∨ k = .token (.symbol '-')

/-- How a literal ends: with a word, a string literal or a closing parenthesis. -/
def Closing (k : LexemeKind) : Prop :=
  k = .token .word ∨ k = .token .string ∨ k = .token (.symbol ')')

/-- The first byte of a piece shows its kind. -/
theorem Piece.Good.exists_cons {p : Piece} (h : p.Good) :
    ∃ b u w, p.bytes = b :: u ∧ p.kind = kindAt b w := by
  obtain ⟨v, h⟩ := h
  obtain ⟨b, u, hb⟩ := List.exists_cons_of_ne_nil h.ne_nil
  rw [hb] at h
  exact ⟨b, u, u ++ v, hb, h.kind_eq⟩

/-- A piece begins with a byte of words if and only if it is a word. -/
theorem Piece.Good.head_word {p : Piece} (h : p.Good) :
    p.kind = .token .word ↔ ∃ x ∈ p.bytes.head?, isWordByte x = true := by
  constructor
  · intro hk
    obtain ⟨v, h⟩ := h
    obtain ⟨kind, bytes⟩ := p
    cases hk
    cases h with
    | word hu hv => exact ⟨_, rfl, hu _ List.mem_cons_self⟩
  · intro ⟨x, hx, hw⟩
    obtain ⟨b, u, w, hb, hk⟩ := h.exists_cons
    rw [hb] at hx
    cases hx
    rw [hk, kindAt_word hw]

/-- A piece begins with a single quote if and only if it is a string literal. -/
theorem Piece.Good.head_string {p : Piece} (h : p.Good) :
    p.kind = .token .string ↔ p.bytes.head? = some '\''.toUInt8 := by
  constructor
  · intro hk
    obtain ⟨v, h⟩ := h
    obtain ⟨kind, bytes⟩ := p
    cases hk
    cases h with
    | string hu hv => rfl
  · intro hx
    obtain ⟨b, u, w, hb, hk⟩ := h.exists_cons
    rw [hb] at hx
    cases hx
    exact hk

/-- A quoted name begins with a quote of names. -/
theorem Piece.Good.head_quotedName {p : Piece} (h : p.Good) (hk : p.kind = .token .quotedName) :
    ∀ x ∈ p.bytes.head?, isNameQuote x = true := by
  intro x hx
  obtain ⟨v, h⟩ := h
  obtain ⟨kind, bytes⟩ := p
  cases hk
  cases h with
  | quotedName hq hu hv =>
    cases hx
    exact hq

/-- A placeholder is a question mark. -/
theorem Piece.Good.bytes_placeholder {p : Piece} (h : p.Good)
    (hk : p.kind = .token .placeholder) : p.bytes = ['?'.toUInt8] := by
  obtain ⟨v, h⟩ := h
  obtain ⟨kind, bytes⟩ := p
  cases hk
  cases h
  rfl

/-- A symbol is one byte of ASCII. -/
theorem Piece.Good.bytes_symbol {p : Piece} {c : Char} (h : p.Good)
    (hk : p.kind = .token (.symbol c)) : p.bytes = [c.toUInt8] ∧ c.toNat < 0x80 := by
  obtain ⟨v, h⟩ := h
  obtain ⟨kind, bytes⟩ := p
  cases hk
  cases h with
  | @symbol b _ _ hw =>
    have hlow : b.toNat < 0x80 := by
      refine Nat.lt_of_not_le fun hle => ?_
      rw [isWordByte_of_high (UInt8.le_iff_toNat_le.2 hle)] at hw
      cases hw
    have hn : (Char.ofNat b.toNat).toNat = b.toNat := by
      have hvalid : b.toNat.isValidChar := .inl (by omega)
      rw [Char.ofNat, dif_pos hvalid]
      rfl
    have hlow' : (Char.ofNat b.toNat).toNat < 0x80 := by
      rw [hn]
      exact hlow
    refine ⟨?_, hlow'⟩
    have hb : (Char.ofNat b.toNat).toUInt8 = b := by
      rw [← UInt8.toNat_inj, toNat_toUInt8 hlow', hn]
    rw [hb]

/-- **Neighbours that admit each other do not clash.** -/
theorem not_clash_of_before {p q : Piece} (hp : p.Good) (hq : q.Good) (h : p.Before q) :
    ¬ Clash p.kind q.kind := by
  intro hclash
  rcases hclash with ⟨he, hk | hk | hk⟩
  · obtain ⟨x, hx, hw⟩ := hq.head_word.1 (he ▸ hk)
    rw [Piece.Before, hk] at h
    rw [h x hx] at hw
    cases hw
  · rw [Piece.Before, hk] at h
    exact h (hq.head_string.1 (he ▸ hk))
  · have hpb := (hp.bytes_symbol hk).1
    have hqb := (hq.bytes_symbol (he ▸ hk)).1
    rw [Piece.Before, hk, hpb, hqb] at h
    exact (h _ rfl).1 ⟨rfl, rfl⟩

/-- A word admits whatever is none. -/
theorem before_of_word {p q : Piece} (hq : q.Good) (hk : p.kind = .token .word)
    (hc : ¬ Clash p.kind q.kind) : p.Before q := by
  rw [Piece.Before, hk]
  intro x hx
  refine Bool.eq_false_iff.2 fun hw => hc ?_
  have hqk : q.kind = .token .word := hq.head_word.2 ⟨x, hx, hw⟩
  exact ⟨hk.trans hqk.symm, .inl hk⟩

/-- A string literal admits whatever is none. -/
theorem before_of_string {p q : Piece} (hq : q.Good) (hk : p.kind = .token .string)
    (hc : ¬ Clash p.kind q.kind) : p.Before q := by
  rw [Piece.Before, hk]
  intro hx
  have hqk : q.kind = .token .string := hq.head_string.2 hx
  exact hc ⟨hk.trans hqk.symm, .inr (.inl hk)⟩

/-- A symbol that is no dash and no slash admits everything. -/
theorem before_of_symbol {c : Char} {p q : Piece} (hp : p.Good) (hk : p.kind = .token (.symbol c))
    (hdash : c ≠ '-') (hslash : c ≠ '/') : p.Before q := by
  obtain ⟨hb, hn⟩ := hp.bytes_symbol hk
  rw [Piece.Before, hk, hb]
  intro x hx
  cases hx
  have hdash' : c.toUInt8 ≠ '-'.toUInt8 := toUInt8_ne hn (by decide) hdash
  have hslash' : c.toUInt8 ≠ '/'.toUInt8 := toUInt8_ne hn (by decide) hslash
  exact ⟨fun h => hdash' h.1, fun h => hslash' h.1⟩

/-- What ends a literal admits whatever it does not clash with. -/
theorem admits_closing {p q : Piece} (hp : p.Good) (hq : q.Good) (hk : Closing p.kind)
    (hc : ¬ Clash p.kind q.kind) : p.Before q := by
  rcases hk with hk | hk | hk
  · exact before_of_word hq hk hc
  · exact before_of_string hq hk hc
  · exact before_of_symbol hp hk (by decide) (by decide)

/-- The kinds that admit whatever they do not clash with. -/
def LexemeKind.isCalm : LexemeKind → Bool
  | .blank | .token .word | .token .string => true
  | .token (.symbol c) => c != '-' && c != '/'
  | _ => false

theorem before_of_isCalm {p q : Piece} (hp : p.Good) (hq : q.Good) (hk : p.kind.isCalm = true)
    (hc : ¬ Clash p.kind q.kind) : p.Before q := by
  cases hpk : p.kind with
  | blank =>
    rw [Piece.Before, hpk]
    trivial
  | token kind =>
    cases kind with
    | word => exact before_of_word hq hpk hc
    | string => exact before_of_string hq hpk hc
    | symbol c =>
      rw [hpk] at hk
      simp only [LexemeKind.isCalm, Bool.and_eq_true, bne_iff_ne] at hk
      exact before_of_symbol hp hpk hk.1 hk.2
    | _ =>
      rw [hpk] at hk
      cases hk
  | _ =>
    rw [hpk] at hk
    cases hk

/-- **Lexemes of calm kinds that do not clash** read back as themselves. -/
theorem lexemes_of_isCalm (hgood : ∀ l ∈ ls, l.piece.Good)
    (hcalm : ∀ k ∈ ls.map Lexeme.kind, k.isCalm = true)
    (hclash : (ls.map Lexeme.kind).IsChain fun k k' => ¬ Clash k k') :
    lexemes (joined ls) = .ok ls := by
  rw [List.isChain_map] at hclash
  refine (lexemes_joined_iff ls).2 ⟨hgood, ?_⟩
  refine List.IsChain.imp_of_mem_imp (fun l m hl hm hc => ?_) hclash
  exact before_of_isCalm (hgood l hl) (hgood m hm) (hcalm _ (List.mem_map_of_mem hl)) hc

/-- What begins a literal begins with no quote of names and no star, and with a dash only if it is
    one. -/
theorem Piece.Good.head_opening {p : Piece} (h : p.Good) (hk : Opening p.kind) :
    ∃ x, p.bytes.head? = some x ∧ isNameQuote x = false ∧ x ≠ '*'.toUInt8 ∧
      (x = '-'.toUInt8 → p.kind = .token (.symbol '-')) := by
  rcases hk with hk | hk | hk
  · obtain ⟨x, hx, hw⟩ := h.head_word.1 hk
    have hname : isNameQuote x = false := by
      refine Bool.eq_false_iff.2 fun hn => ?_
      rcases isNameQuote_iff.1 hn with e | e
      · exact ne_of_isWordByte hw (by decide) e
      · exact ne_of_isWordByte hw (by decide) e
    have hdash : x ≠ '-'.toUInt8 := ne_of_isWordByte hw (by decide)
    exact ⟨x, hx, hname, ne_of_isWordByte hw (by decide), fun e => absurd e hdash⟩
  · have hx := h.head_string.1 hk
    exact ⟨_, hx, rfl, by decide, fun e => absurd e (by decide)⟩
  · have hb := (h.bytes_symbol hk).1
    rw [hb]
    exact ⟨_, rfl, rfl, by decide, fun _ => hk⟩

/-- What stood before a placeholder admits what begins a literal, if it does not clash with it. -/
theorem admits_opening {p q : Piece} (hp : p.Good) (hq : q.Good)
    (hmark : Admits p.kind p.bytes ['?'.toUInt8]) (hk : Opening q.kind)
    (hc : ¬ Clash p.kind q.kind) : p.Before q := by
  obtain ⟨x, hx, hname, hstar, hdash⟩ := hq.head_opening hk
  cases hpk : p.kind with
  | blank =>
    rw [Piece.Before, hpk]
    trivial
  | blockComment =>
    rw [Piece.Before, hpk]
    trivial
  | lineComment =>
    -- the question mark could follow, so the comment ends in a line feed
    rw [hpk] at hmark
    rw [Piece.Before, hpk]
    rcases hmark with hmark | hmark
    · exact .inl hmark
    · cases hmark
  | token kind =>
    cases kind with
    | placeholder =>
      rw [Piece.Before, hpk]
      trivial
    | word => exact before_of_word hq hpk hc
    | string => exact before_of_string hq hpk hc
    | quotedName =>
      rw [Piece.Before, hpk]
      intro y hy hxy
      have hquote := hp.head_quotedName hpk y hy
      cases hx.symm.trans hxy
      rw [hname] at hquote
      cases hquote
    | symbol c =>
      obtain ⟨hpb, hlow⟩ := hp.bytes_symbol hpk
      rw [Piece.Before, hpk, hpb]
      intro y hy
      cases hy
      refine ⟨fun h => ?_, fun h => ?_⟩
      · -- a dash before a dash is a clash
        have hcd : c = '-' := (toUInt8_inj hlow (by decide)).1 h.1
        subst hcd
        have hqk := hdash (Option.some.inj (hx.symm.trans h.2))
        exact hc ⟨hpk.trans hqk.symm, .inr (.inr hpk)⟩
      · exact hstar (Option.some.inj (hx.symm.trans h.2))

end StatelessSession.Sql
