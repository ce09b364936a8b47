import Storefront.Json.Body
import Storefront.Proofs.Items
import Storefront.Proofs.Words

/-! Documents that are written and read again. The reader takes the words of a value one by one and ends
with the value handed to whatever is open around it, so by induction over the value the whole document
comes back, with the members of its objects in their order. What is written is printable ASCII, so its
bytes are read in the encoding in which they were written. -/
namespace Storefront.Json

open Text

/-- A value that comes back: its strings are texts, no key occurs twice in an object, no integer has too
many digits, and there are at most `n` lists and objects around one another. Numbers with a fraction are
left out. -/
inductive Value.Fits : Nat → Value → Prop
  | null (n : Nat) : Fits n .null
  | bool (n : Nat) (b : Bool) : Fits n (.bool b)
  | int (n : Nat) (i : Int) : digitCount i ≤ digitLimit → Fits n (.int i)
  | str (n : Nat) (s : Str) : s.isWhole = true → Fits n (.str s)
  | arr (n : Nat) (vs : List Value) : (∀ v ∈ vs, Fits n v) → Fits (n + 1) (.arr vs)
  | obj (n : Nat) (ms : List (Str × Value)) : (Pairs.keys ms).Nodup →
      (∀ p ∈ ms, p.1.isWhole = true) → (∀ p ∈ ms, Fits n p.2) → Fits (n + 1) (.obj ms)

theorem Value.Fits.mono {n m : Nat} {v : Value} (h : v.Fits n) (hle : n ≤ m) : v.Fits m := by
  induction h generalizing m with
  | null => exact .null m
  | bool _ b => exact .bool m b
  | int _ i hi => exact .int m i hi
  | str _ s hs => exact .str m s hs
  | arr n vs _ ih =>
    obtain ⟨m, rfl⟩ : ∃ k, m = k + 1 := ⟨m - 1, by omega⟩
    exact .arr m vs fun v hv => ih v hv (by omega)
  | obj n ms hkeys hwhole _ ih =>
    obtain ⟨m, rfl⟩ : ∃ k, m = k + 1 := ⟨m - 1, by omega⟩
    exact .obj m ms hkeys hwhole fun p hp => ih p hp (by omega)

/-! Reading -/

/-- From one state the reader comes to another over some characters, with what is after them ahead. It
takes no more words than there are characters. -/
def State.Reads (s : State) (cs : List Char) (rest : List Glyph) (s' : State) : Prop :=
  ∃ k, k ≤ cs.length ∧ ∀ fuel, s.run (fuel + k) (cs.map .char ++ rest) = s'.run fuel rest

namespace State

variable {s s' s'' : State} {cs ds : List Char} {rest : List Glyph}

theorem Reads.trans (h : s.Reads cs (ds.map .char ++ rest) s') (h' : s'.Reads ds rest s'') :
    s.Reads (cs ++ ds) rest s'' := by
  obtain ⟨k, hk, hrun⟩ := h
  obtain ⟨m, hm, hrun'⟩ := h'
  refine ⟨m + k, ?_, fun fuel => ?_⟩
  · rw [List.length_append]
    omega
  · rw [List.map_append, List.append_assoc, ← Nat.add_assoc, hrun, hrun']

theorem run_space (fuel : Nat) (s : State) (gs : List Glyph) :
    s.run fuel (.char ' ' :: gs) = s.run fuel gs := by
  cases fuel with
  | zero => rfl
  | succ fuel => rfl

theorem Reads.space (h : s.Reads cs rest s') : s.Reads (' ' :: cs) rest s' := by
  obtain ⟨k, hk, hrun⟩ := h
  refine ⟨k, Nat.le_succ_of_le hk, fun fuel => ?_⟩
  rw [List.map_cons, List.cons_append, run_space, hrun]

/-- The reader takes a word that it can take. -/
theorem reads_word {c : Char} {t : Token} (hc : isSpace (.char c) = false)
    (hword : nextToken (.char c) (cs.map .char ++ rest) = (t, rest)) (ht : ∀ place, s.take place t = .ok s') :
    s.Reads (c :: cs) rest s' := by
  refine ⟨1, Nat.succ_le_succ (Nat.zero_le _), fun fuel => ?_⟩
  have hdrop : (Glyph.char c :: (cs.map .char ++ rest)).dropWhile isSpace =
      .char c :: (cs.map .char ++ rest) := by
    rw [List.dropWhile_cons, hc]
    rfl
  simp only [List.map_cons, List.cons_append, run, hdrop, hword, ht]

theorem reads_text {t : Str} (hwhole : t.isWhole = true)
    (ht : ∀ place, s.take place (.text t) = .ok s') : s.Reads (writeText t) rest s' := by
  obtain ⟨t, rfl⟩ := Str.isWhole_iff.mp hwhole
  rw [writeText_ofString]
  apply reads_word rfl _ ht
  show nextToken _ ((t.toList.flatMap escapeChar ++ ['"']).map .char ++ rest) = _
  rw [List.map_append, List.append_assoc]
  exact nextToken_text t rest

/-- A state in which a value may come next. -/
def Awaits (s : State) : Prop := s.mode = .value ∨ s.mode = .firstItem

theorem Awaits.take (h : s.Awaits) {t : Token} (ht : t ≠ .closeArray) (place : List Glyph) :
    s.take place t = s.takeValue place t := by
  obtain ⟨stack, mode⟩ := s
  rcases h with h | h
  · obtain rfl : mode = .value := h
    cases t <;> rfl
  · obtain rfl : mode = .firstItem := h
    cases t with
    | closeArray => exact absurd rfl ht
    | _ => rfl

/-- A scalar is one word. -/
theorem reads_scalar (h : s.Awaits) {c : Char} {v : Value} (hc : isSpace (.char c) = false)
    (hword : nextToken (.char c) (cs.map .char ++ rest) = (.scalar v, rest)) :
    s.Reads (c :: cs) rest (accept v s.stack) := by
  apply reads_word hc hword
  intro place
  rw [h.take (by simp)]
  rfl

end State

/-- Wherever a value may come next and there is room for it, it is read as it is written. -/
def Value.IsRead (v : Value) (n : Nat) : Prop :=
  ∀ (s : State) (rest : List Glyph), s.Awaits → s.stack.length + n ≤ depthLimit → Ends rest →
    s.Reads v.chars rest (State.accept v s.stack)

theorem ends_itemChars (vs : List Value) (rest : List Glyph) :
    Ends ((itemChars vs).map .char ++ rest) := by
  cases vs with
  | nil => exact .cons (.inr (.inl rfl))
  | cons v vs => exact .cons (.inl rfl)

theorem ends_memberChars (ms : List (Str × Value)) (rest : List Glyph) :
    Ends ((memberChars ms).map .char ++ rest) := by
  cases ms with
  | nil => exact .cons (.inr (.inr rfl))
  | cons p ms => exact .cons (.inl rfl)

namespace State

variable {stack : List Frame} {n : Nat} {rest : List Glyph}

/-- The items after those of an open list are read to its end. -/
theorem reads_items (hroom : stack.length + 1 + n ≤ depthLimit) (done vs : List Value)
    (hvs : ∀ v ∈ vs, v.IsRead n) :
    State.Reads ⟨.array done :: stack, .more⟩ (itemChars vs) rest
      (accept (.arr (done.reverse ++ vs)) stack) := by
  induction vs generalizing done with
  | nil =>
    rw [List.append_nil]
    exact reads_word rfl rfl fun place => rfl
  | cons v vs ih =>
    obtain ⟨hv, hrest⟩ := List.forall_mem_cons.mp hvs
    have hcomma : State.Reads ⟨.array done :: stack, .more⟩ [',']
        ((' ' :: v.chars).map .char ++ ((itemChars vs).map .char ++ rest))
        ⟨.array done :: stack, .value⟩ :=
      reads_word rfl rfl fun place => rfl
    have hvalue := hv ⟨.array done :: stack, .value⟩ ((itemChars vs).map .char ++ rest) (.inl rfl)
      hroom (ends_itemChars vs rest)
    have htail := ih (v :: done) hrest
    rw [List.reverse_cons, List.append_assoc] at htail
    exact (hcomma.trans hvalue.space).trans htail

/-- A member is read, its name, the colon and its value. -/
theorem reads_member {v : Value} {mode : Mode} (hroom : stack.length + 1 + n ≤ depthLimit)
    (done : Pairs Value Str) (key : Str) {k : Str} (hk : k.isWhole = true)
    (hmode : mode = .key ∨ mode = .firstKey) (hv : v.IsRead n) (hrest : Ends rest) :
    State.Reads ⟨.object done key :: stack, mode⟩ (writeText k ++ ':' :: ' ' :: v.chars) rest
      ⟨.object (done.put k v) k :: stack, .more⟩ := by
  have hname : State.Reads ⟨.object done key :: stack, mode⟩ (writeText k)
      ((':' :: ' ' :: v.chars).map .char ++ rest) ⟨.object done k :: stack, .colon⟩ := by
    apply reads_text hk
    intro place
    rcases hmode with rfl | rfl
    · rfl
    · rfl
  have hcolon : State.Reads ⟨.object done k :: stack, .colon⟩ [':']
      ((' ' :: v.chars).map .char ++ rest) ⟨.object done k :: stack, .value⟩ := reads_word rfl rfl fun place => rfl
  have hvalue := hv ⟨.object done k :: stack, .value⟩ rest (.inl rfl) hroom hrest
  exact hname.trans (hcolon.trans hvalue.space)

/-- The members after those of an open object are read to its end. -/
theorem reads_members (hroom : stack.length + 1 + n ≤ depthLimit) (done ms : Pairs Value Str)
    (key : Str) (hkeys : (Pairs.keys (done ++ ms)).Nodup) (hwhole : ∀ p ∈ ms, p.1.isWhole = true)
    (hms : ∀ p ∈ ms, p.2.IsRead n) :
    State.Reads ⟨.object done key :: stack, .more⟩ (memberChars ms) rest
      (accept (.obj (done ++ ms)) stack) := by
  induction ms generalizing done key with
  | nil =>
    rw [List.append_nil]
    exact reads_word rfl rfl fun place => rfl
  | cons p ms ih =>
    obtain ⟨k, v⟩ := p
    obtain ⟨hv, hrest⟩ := List.forall_mem_cons.mp hms
    obtain ⟨hk, hothers⟩ := List.forall_mem_cons.mp hwhole
    have hcomma : State.Reads ⟨.object done key :: stack, .more⟩ [',']
        ((' ' :: (writeText k ++ ':' :: ' ' :: v.chars)).map .char ++
          ((memberChars ms).map .char ++ rest))
        ⟨.object done key :: stack, .key⟩ := reads_word rfl rfl fun place => rfl
    have hmember := reads_member hroom done key hk (.inl rfl) hv (ends_memberChars ms rest)
    have hnot : k ∉ done.keys := by
      have hsplit : (done.keys ++ k :: Pairs.keys ms).Nodup := by
        simpa [Pairs.keys] using hkeys
      intro hk
      exact (List.nodup_append.mp hsplit).2.2 k hk k List.mem_cons_self rfl
    have hmoved : done ++ [(k, v)] ++ ms = done ++ (k, v) :: ms := by simp
    have htail := ih (done ++ [(k, v)]) k (by rwa [hmoved]) hothers hrest
    rw [hmoved] at htail
    rw [Pairs.put_of_not_mem hnot] at hmember
    have hall := (hcomma.trans hmember.space).trans htail
    simpa [memberChars] using hall

variable {s : State} {vs : List Value} {ms : List (Str × Value)}

theorem Awaits.reads_array (h : s.Awaits) (hroom : s.stack.length + (n + 1) ≤ depthLimit)
    (hvs : ∀ v ∈ vs, v.IsRead n) :
    s.Reads (Value.arr vs).chars rest (accept (.arr vs) s.stack) := by
  have henter : s.enter .array = .ok ⟨.array [] :: s.stack, .firstItem⟩ := if_neg (by omega)
  have hopen (rest : List Glyph) : s.Reads ['['] rest ⟨.array [] :: s.stack, .firstItem⟩ := by
    apply reads_word rfl rfl
    intro place
    rw [h.take (by simp)]
    exact henter
  cases vs with
  | nil =>
    have hclose : State.Reads ⟨.array [] :: s.stack, .firstItem⟩ [']'] rest
        (accept (.arr []) s.stack) := reads_word rfl rfl fun place => rfl
    exact (hopen _).trans hclose
  | cons v vs =>
    obtain ⟨hv, hrest⟩ := List.forall_mem_cons.mp hvs
    have hinside : s.stack.length + 1 + n ≤ depthLimit := by omega
    have hfirst := hv ⟨.array [] :: s.stack, .firstItem⟩ ((itemChars vs).map .char ++ rest) (.inr rfl)
      hinside (ends_itemChars vs rest)
    exact ((hopen _).trans hfirst).trans (reads_items hinside [v] vs hrest)

theorem Awaits.reads_object (h : s.Awaits) (hroom : s.stack.length + (n + 1) ≤ depthLimit)
    (hkeys : (Pairs.keys ms).Nodup) (hwhole : ∀ p ∈ ms, p.1.isWhole = true)
    (hms : ∀ p ∈ ms, p.2.IsRead n) : s.Reads (Value.obj ms).chars rest (accept (.obj ms) s.stack) := by
  have henter : s.enter .object = .ok ⟨.object [] "" :: s.stack, .firstKey⟩ := if_neg (by omega)
  have hopen (rest : List Glyph) : s.Reads ['\x7b'] rest ⟨.object [] "" :: s.stack, .firstKey⟩ := by
    apply reads_word rfl rfl
    intro place
    rw [h.take (by simp)]
    exact henter
  cases ms with
  | nil =>
    have hclose : State.Reads ⟨.object [] "" :: s.stack, .firstKey⟩ ['\x7d'] rest
        (accept (.obj []) s.stack) := reads_word rfl rfl fun place => rfl
    exact (hopen _).trans hclose
  | cons p ms =>
    obtain ⟨k, v⟩ := p
    obtain ⟨hv, hrest⟩ := List.forall_mem_cons.mp hms
    obtain ⟨hk, hothers⟩ := List.forall_mem_cons.mp hwhole
    have hinside : s.stack.length + 1 + n ≤ depthLimit := by omega
    have hfirst := reads_member hinside [] "" hk (.inr rfl) hv (ends_memberChars ms rest)
    exact ((hopen _).trans hfirst).trans (reads_members hinside [(k, v)] ms k hkeys hothers hrest)

end State

/-- Every value that fits is read as it is written. -/
theorem Value.Fits.isRead {n : Nat} {v : Value} (h : v.Fits n) : v.IsRead n := by
  induction h with
  | null => exact fun s rest hs _ _ => State.reads_scalar hs rfl rfl
  | bool _ b =>
    cases b with
    | false => exact fun s rest hs _ _ => State.reads_scalar hs rfl rfl
    | true => exact fun s rest hs _ _ => State.reads_scalar hs rfl rfl
  | int _ i hi =>
    intro s rest hs _ hrest
    obtain ⟨c, cs, hchars, hc, hword⟩ := nextToken_int hi hrest
    rw [hchars]
    exact State.reads_scalar hs hc hword
  | str _ t ht =>
    intro s rest hs _ _
    apply State.reads_text ht
    intro place
    rw [hs.take (by simp)]
    rfl
  | arr n vs _ ih => exact fun s rest hs hroom _ => hs.reads_array hroom ih
  | obj n ms hkeys hwhole _ ih =>
    exact fun s rest hs hroom _ => hs.reads_object hroom hkeys hwhole ih

/-- A document that fits comes back from its written form. -/
theorem readGlyphs_chars {v : Value} (h : v.Fits depthLimit) :
    readGlyphs (v.chars.map .char) = .ok v := by
  obtain ⟨k, hk, hrun⟩ := h.isRead .start [] (.inl rfl) (Nat.le_of_eq (Nat.zero_add _))
    (fun c hc => nomatch hc)
  have hfuel : v.chars.length + 1 = (v.chars.length - k) + 1 + k := by omega
  rw [List.append_nil] at hrun
  rw [readGlyphs, List.length_map, hfuel, hrun]
  rfl

/-! What is written -/

/-- Characters that are stored in one byte and seen. -/
def IsPrintable (cs : List Char) : Prop := ∀ c ∈ cs, 32 ≤ c.toNat ∧ c.toNat < 127

namespace IsPrintable

theorem nil : IsPrintable [] := fun _ hc => nomatch hc

theorem cons {c : Char} {cs : List Char} (hc : 32 ≤ c.toNat ∧ c.toNat < 127)
    (hcs : IsPrintable cs) : IsPrintable (c :: cs) := List.forall_mem_cons.mpr ⟨hc, hcs⟩

theorem of_all {cs : List Char} (h : cs.all (fun c => 32 ≤ c.toNat && c.toNat < 127) = true) :
    IsPrintable cs := by
  intro c hc
  have hboth := List.all_eq_true.mp h c hc
  rw [Bool.and_eq_true, decide_eq_true_eq, decide_eq_true_eq] at hboth
  exact hboth

theorem append {cs ds : List Char} (hcs : IsPrintable cs) (hds : IsPrintable ds) :
    IsPrintable (cs ++ ds) := List.forall_mem_append.mpr ⟨hcs, hds⟩

theorem hexDigits (width n : Nat) : IsPrintable (Text.hexDigits width n) := by
  have hdigit : ∀ d < 16, 32 ≤ (hexDigit d).toNat ∧ (hexDigit d).toNat < 127 := by decide
  induction width generalizing n with
  | zero => exact nil
  | succ width ih => exact (ih (n / 16)).append (cons (hdigit _ (Nat.mod_lt _ (by decide))) nil)

theorem unitEscape (n : Nat) : IsPrintable (Json.unitEscape n) :=
  cons (by decide) (cons (by decide) (hexDigits 4 n))

theorem escapeChar (c : Char) : IsPrintable (Json.escapeChar c) := by
  have hshort {x : Char} (hx : 32 ≤ x.toNat ∧ x.toNat < 127) : IsPrintable ['\\', x] :=
    cons (by decide) (cons hx nil)
  unfold Json.escapeChar
  split
  · exact hshort (by decide)
  split
  · exact hshort (by decide)
  split
  · exact hshort (by decide)
  split
  · exact hshort (by decide)
  split
  · exact hshort (by decide)
  split
  · exact hshort (by decide)
  split
  · exact hshort (by decide)
  split
  · rename_i h
    exact cons (by simpa using h) nil
  split
  · exact unitEscape _
  · exact (unitEscape _).append (unitEscape _)

theorem escapeGlyph (g : Glyph) : IsPrintable (Json.escapeGlyph g) := by
  cases g with
  | char c => exact escapeChar c
  | half n => exact unitEscape _

theorem writeText (s : Str) : IsPrintable (Json.writeText s) := by
  have hinside : IsPrintable (s.glyphs.flatMap Json.escapeGlyph) := by
    intro c hc
    obtain ⟨g, -, hg⟩ := List.mem_flatMap.mp hc
    exact escapeGlyph g c hg
  exact cons (by decide) (hinside.append (cons (by decide) nil))

theorem toDigits (n : Nat) : IsPrintable (Nat.toDigits 10 n) := by
  intro c hc
  have hdigit := isDigit_toDigits hc
  simp only [Char.isDigit, Bool.and_eq_true, decide_eq_true_eq] at hdigit
  have hlow : 48 ≤ c.toNat := hdigit.1
  have hhigh : c.toNat ≤ 57 := hdigit.2
  omega

theorem itemChars {vs : List Value} (h : ∀ v ∈ vs, IsPrintable v.chars) :
    IsPrintable (Json.itemChars vs) := by
  induction vs with
  | nil => exact cons (by decide) nil
  | cons v vs ih =>
    obtain ⟨hv, hvs⟩ := List.forall_mem_cons.mp h
    exact append (cons (by decide) (cons (by decide) hv)) (ih hvs)

theorem member (k : Str) {v : Value} (h : IsPrintable v.chars) :
    IsPrintable (Json.writeText k ++ ':' :: ' ' :: v.chars) :=
  (writeText k).append (cons (by decide) (cons (by decide) h))

theorem memberChars {ms : List (Str × Value)} (h : ∀ p ∈ ms, IsPrintable p.2.chars) :
    IsPrintable (Json.memberChars ms) := by
  induction ms with
  | nil => exact cons (by decide) nil
  | cons p ms ih =>
    obtain ⟨hv, hms⟩ := List.forall_mem_cons.mp h
    exact append (cons (by decide) (cons (by decide) (member p.1 hv))) (ih hms)

end IsPrintable

theorem Value.Fits.isPrintable {n : Nat} {v : Value} (h : v.Fits n) : IsPrintable v.chars := by
  induction h with
  | null => exact .of_all rfl
  | bool _ b =>
    cases b with
    | false => exact .of_all rfl
    | true => exact .of_all rfl
  | int _ i _ =>
    rw [chars_int]
    apply IsPrintable.append _ (.toDigits _)
    split
    · exact .cons (by decide) .nil
    · exact .nil
  | str _ t => exact .writeText t
  | arr n vs _ ih =>
    cases vs with
    | nil => exact .cons (by decide) (.cons (by decide) .nil)
    | cons v vs =>
      obtain ⟨hv, hvs⟩ := List.forall_mem_cons.mp ih
      exact .append (.cons (by decide) hv) (.itemChars hvs)
  | obj n ms _ _ _ ih =>
    cases ms with
    | nil => exact .cons (by decide) (.cons (by decide) .nil)
    | cons p ms =>
      obtain ⟨hv, hms⟩ := List.forall_mem_cons.mp ih
      exact .append (.cons (by decide) (.member p.1 hv)) (.memberChars hms)

/-- What is written does not begin with a space. -/
theorem Value.Fits.begins {n : Nat} {v : Value} (h : v.Fits n) :
    ∃ c cs, v.chars = c :: cs ∧ isSpace (.char c) = false := by
  cases h with
  | null => exact ⟨_, _, rfl, rfl⟩
  | bool _ b =>
    cases b with
    | false => exact ⟨_, _, rfl, rfl⟩
    | true => exact ⟨_, _, rfl, rfl⟩
  | int _ i hi =>
    have hend : Ends [] := fun c hc => nomatch hc
    obtain ⟨c, cs, hchars, hc, -⟩ := nextToken_int hi hend
    exact ⟨c, cs, hchars, hc⟩
  | str _ t => exact ⟨_, _, rfl, rfl⟩
  | arr _ vs =>
    cases vs with
    | nil => exact ⟨_, _, rfl, rfl⟩
    | cons v vs => exact ⟨_, _, rfl, rfl⟩
  | obj _ ms =>
    cases ms with
    | nil => exact ⟨_, _, rfl, rfl⟩
    | cons p ms => exact ⟨_, _, rfl, rfl⟩

/-! The bytes of what is written -/

/-- Bytes each of which is a character that is seen. -/
def IsPlain (bs : List UInt8) : Prop := ∀ b ∈ bs, 32 ≤ b.toNat ∧ b.toNat < 127

theorem toNat_ofNat_of_printable {c : Char} (h : 32 ≤ c.toNat ∧ c.toNat < 127) :
    (UInt8.ofNat c.toNat).toNat = c.toNat := by
  apply UInt8.toNat_ofNat_of_lt'
  have hsize : UInt8.size = 256 := rfl
  omega

theorem encodeChar_of_printable {c : Char} (h : 32 ≤ c.toNat ∧ c.toNat < 127) :
    Utf8.encodeChar c = [.ofNat c.toNat] := if_pos (by omega)

theorem IsPrintable.isPlain {cs : List Char} (h : IsPrintable cs) : IsPlain (Utf8.encode cs) := by
  intro b hb
  obtain ⟨c, hc, hb⟩ := List.mem_flatMap.mp hb
  rw [encodeChar_of_printable (h c hc)] at hb
  rw [List.mem_singleton.mp hb, toNat_ofNat_of_printable (h c hc)]
  exact h c hc

/-- In every mark there is a byte that is no such character. -/
theorem marks_unseen :
    Charset.marks.all (fun p => p.1.any fun b => b.toNat < 32 || 127 ≤ b.toNat) = true := by decide

/-- Such bytes come without a mark of their order and have no zero among them. -/
theorem IsPlain.detect {bs : List UInt8} (h : IsPlain bs) : Charset.detect bs = (.utf8, bs) := by
  have hmark : ∀ p ∈ Charset.marks, ¬ p.1.isPrefixOf bs = true := by
    intro p hp hprefix
    obtain ⟨b, hb, hout⟩ := List.any_eq_true.mp (List.all_eq_true.mp marks_unseen p hp)
    have hin := h b ((List.isPrefixOf_iff_prefix.mp hprefix).subset hb)
    rw [Bool.or_eq_true, decide_eq_true_eq, decide_eq_true_eq] at hout
    omega
  have hnone : Charset.marks.find? (·.1.isPrefixOf bs) = none := List.find?_eq_none.mpr hmark
  have hzero {b : UInt8} (hb : b ∈ bs) : b ≠ 0 := by
    rintro rfl
    exact absurd (h 0 hb).1 (by decide)
  have hzeros : Charset.ofZeros bs = .utf8 := by
    unfold Charset.ofZeros
    split
    · rw [if_neg (hzero List.mem_cons_self), if_neg (hzero (by simp))]
    · rw [if_neg (hzero List.mem_cons_self), if_neg (hzero (by simp))]
    · rfl
  rw [Charset.detect, hnone, hzeros]

/-- The bytes of a written value are not blank. -/
theorem Value.Fits.not_isBlank {n : Nat} {v : Value} (h : v.Fits n) :
    (Utf8.encode v.chars).all isBlankByte = false := by
  obtain ⟨c, cs, hchars, hspace⟩ := h.begins
  have hc := h.isPrintable c (by rw [hchars]; exact List.mem_cons_self)
  have hbyte := toNat_ofNat_of_printable hc
  have hne : c ≠ ' ' := by
    rintro rfl
    cases hspace
  have hcode : c.toNat ≠ 32 := fun he => hne (Char.ext (UInt32.toNat_inj.mp he))
  have hblank : isBlankByte (.ofNat c.toNat) = false := by
    generalize UInt8.ofNat c.toNat = b at hbyte ⊢
    have hb : b ≠ 32 := by
      rintro rfl
      exact hcode hbyte.symm
    have hhigh : ¬ b ≤ 13 := by
      rw [UInt8.le_iff_toNat_le, hbyte]
      show ¬ c.toNat ≤ 13
      omega
    simp [isBlankByte, hb, hhigh]
  have hencode : Utf8.encode v.chars = .ofNat c.toNat :: Utf8.encode cs := by
    rw [hchars, Utf8.encode, List.flatMap_cons, encodeChar_of_printable hc]
    rfl
  rw [hencode, List.all_cons, hblank, Bool.false_and]

/-- A document that fits comes back from the bytes in which it is written. -/
theorem readBody_write {v : Value} (h : v.Fits depthLimit) :
    readBody (Utf8.encode v.chars) = .ok (some v) := by
  rw [readBody, h.not_isBlank, h.isPrintable.isPlain.detect]
  simp only [Charset.decode?, Utf8.decode?_encode, readGlyphs_chars h]
  rfl

end Storefront.Json
