import Storefront.Proofs.Readback
import Storefront.Settings

/-! The host of a shop in an address. Blanks around it, a scheme before it and slashes behind it are
left out, and what is left may be nothing at all, or nothing that an address reads as a host. A shop
without a name is refused; every other one is taken as it is. -/
namespace Storefront

namespace Text

variable {α : Type} {p : α → Bool} {xs ys : List α}

theorem dropWhile_append_of_head? (h : ∀ y, ys.head? = some y → p y = false) :
    (xs ++ ys).dropWhile p = xs.dropWhile p ++ ys := by
  induction xs with
  | nil => exact dropWhile_of_head? h
  | cons x xs ih =>
    rw [List.cons_append, List.dropWhile_cons, List.dropWhile_cons]
    split
    · exact ih
    · rfl

theorem dropEndWhile_append (hx : ∀ x, xs.getLast? = some x → p x = false)
    (hy : ∀ y ∈ ys, p y = true) : dropEndWhile p (xs ++ ys) = xs := by
  unfold dropEndWhile
  rw [List.reverse_append, List.dropWhile_append_of_pos (by simpa using hy),
    dropWhile_of_head? (by simpa using hx), List.reverse_reverse]

theorem dropEndWhile_getLast? (p : α → Bool) (xs : List α) (x : α)
    (h : (dropEndWhile p xs).getLast? = some x) : p x = false := by
  unfold dropEndWhile at h
  rw [List.getLast?_reverse] at h
  exact head?_dropWhile h

theorem trimBy_between {before after : List α} (hbefore : ∀ x ∈ before, p x = true)
    (hfirst : ∀ x, xs.head? = some x → p x = false)
    (hlast : ∀ x, xs.getLast? = some x → p x = false) (hafter : ∀ x ∈ after, p x = true) :
    trimBy p (before ++ xs ++ after) = xs := by
  rw [trimBy, List.append_assoc, List.dropWhile_append_of_pos hbefore]
  cases xs with
  | nil =>
    rw [List.nil_append, List.dropWhile_eq_nil_iff.mpr hafter]
    rfl
  | cons x xs =>
    have hdrop : (x :: xs ++ after).dropWhile p = x :: xs ++ after := dropWhile_of_head? hfirst
    rw [hdrop, dropEndWhile_append hlast hafter]

/-- What is left of a text after trimming stands between two pieces that satisfy the test. -/
theorem exists_eq_append_trimBy (p : α → Bool) (xs : List α) : ∃ before after,
    xs = before ++ trimBy p xs ++ after ∧ (∀ x ∈ before, p x = true) ∧ ∀ x ∈ after, p x = true := by
  refine ⟨xs.takeWhile p, (xs.dropWhile p).rtakeWhile p, ?_, fun x => List.mem_takeWhile_imp,
    fun x => List.mem_rtakeWhile_imp⟩
  rw [trimBy, dropEndWhile_eq, List.append_assoc, List.rdropWhile_append_rtakeWhile,
    List.takeWhile_append_dropWhile]

end Text

namespace Endpoint

open Text (isBlank trimBy dropEndWhile)

variable {mark cs pre rest : List Char}

theorem eq_of_splitAt? (h : splitAt? mark cs = some (pre, rest)) : cs = pre ++ mark ++ rest := by
  induction cs generalizing pre with
  | nil => cases h
  | cons c cs ih =>
    rw [splitAt?] at h
    split at h
    · rename_i hmark
      obtain ⟨rfl, rfl⟩ := Prod.mk.inj (Option.some.inj h)
      obtain ⟨rest, hrest⟩ := List.isPrefixOf_iff_prefix.mp hmark
      rw [← hrest, List.drop_left, List.nil_append]
    · obtain ⟨⟨pre', rest'⟩, hsplit, heq⟩ := Option.map_eq_some_iff.mp h
      obtain ⟨rfl, rfl⟩ := Prod.mk.inj heq
      rw [ih hsplit]
      rfl

theorem splitAt?_of_not_infix (h : ¬ mark <:+: cs) : splitAt? mark cs = none := by
  cases hsplit : splitAt? mark cs with
  | none => rfl
  | some parts => exact absurd ⟨parts.1, parts.2, (eq_of_splitAt? hsplit).symm⟩ h

/-- The mark behind a scheme does not begin before its place. -/
theorem splitAt?_append (h : ¬ "://".toList <:+: pre) :
    splitAt? "://".toList (pre ++ "://".toList ++ rest) = some (pre, rest) := by
  induction pre with
  | nil => rfl
  | cons c pre ih =>
    have hmark : ¬ "://".toList.isPrefixOf (c :: (pre ++ "://".toList ++ rest)) = true := by
      intro hp
      obtain ⟨more, hmore⟩ := List.isPrefixOf_iff_prefix.mp hp
      have hchars : ':' :: '/' :: '/' :: more = c :: (pre ++ ':' :: '/' :: '/' :: rest) := by
        simpa using hmore
      obtain ⟨hcolon, hslashes⟩ := List.cons.inj hchars
      -- The slashes of the mark cannot be reached while its colon still lies ahead.
      match pre, hslashes with
      | [], hslashes => exact absurd (List.cons.inj hslashes).1 (by decide)
      | [_], hslashes => exact absurd (List.cons.inj (List.cons.inj hslashes).2).1 (by decide)
      | _ :: _ :: pre, hslashes =>
        obtain ⟨rfl, hslash⟩ := List.cons.inj hslashes
        obtain ⟨rfl, -⟩ := List.cons.inj hslash
        exact h ⟨[], pre, by rw [← hcolon]; rfl⟩
    rw [List.cons_append, List.cons_append, splitAt?, if_neg hmark,
      ih fun hin => h (hin.trans (List.suffix_cons c pre).isInfix)]
    rfl

/-- A host as it stands in an address. -/
structure IsBareHost (h : List Char) : Prop where
  nonempty : h ≠ []
  noMark : ¬ "://".toList <:+: h
  first : ∀ c, h.head? = some c → isBlank c = false
  last : ∀ c, h.getLast? = some c → isBlank c = false ∧ c ≠ '/'

/-- The name of a scheme and the mark behind it, or nothing. -/
def schemeMark : Option (List Char) → List Char
  | none => []
  | some scheme => scheme ++ "://".toList

/-- Blanks before a scheme fall away, and blanks at its beginning. -/
theorem dropWhile_schemeMark {before rest : List Char} {scheme : Option (List Char)}
    (hbefore : ∀ c ∈ before, isBlank c = true) (hscheme : ∀ s ∈ scheme, ¬ "://".toList <:+: s)
    (hrest : ∀ c, rest.head? = some c → isBlank c = false) :
    ∃ scheme' : Option (List Char), (∀ s ∈ scheme', ¬ "://".toList <:+: s) ∧
      (before ++ schemeMark scheme ++ rest).dropWhile isBlank = schemeMark scheme' ++ rest := by
  rw [List.append_assoc, List.dropWhile_append_of_pos hbefore]
  cases scheme with
  | none => exact ⟨none, nofun, Text.dropWhile_of_head? hrest⟩
  | some s =>
    refine ⟨some (s.dropWhile isBlank), ?_, ?_⟩
    · rintro _ ⟨⟩ hin
      exact hscheme s rfl (hin.trans (List.dropWhile_suffix isBlank).isInfix)
    · rw [schemeMark, schemeMark, List.append_assoc, List.append_assoc,
        Text.dropWhile_append_of_head? (by rintro _ ⟨⟩; decide)]

/-- The host of a shop is what stands between its scheme and the slashes behind it. -/
theorem host_decorated {before h slashes after : List Char} {scheme : Option (List Char)}
    (hbare : IsBareHost h) (hbefore : ∀ c ∈ before, isBlank c = true)
    (hscheme : ∀ s ∈ scheme, ¬ "://".toList <:+: s) (hslashes : ∀ c ∈ slashes, c = '/')
    (hafter : ∀ c ∈ after, isBlank c = true) :
    host (String.ofList (before ++ schemeMark scheme ++ (h ++ slashes ++ after))) = h := by
  have hfirst : ∀ c, (h ++ slashes ++ after).head? = some c → isBlank c = false := by
    obtain ⟨c, cs, rfl⟩ := List.exists_cons_of_ne_nil hbare.nonempty
    exact hbare.first
  obtain ⟨scheme', hscheme', hdrop⟩ := dropWhile_schemeMark hbefore hscheme hfirst
  have hlast (c : Char) (hc : (schemeMark scheme' ++ h).getLast? = some c) :
      isBlank c = false ∧ c ≠ '/' := by
    rw [List.getLast?_append_of_ne_nil _ hbare.nonempty] at hc
    exact hbare.last c hc
  have hblank (c : Char) (hc : (schemeMark scheme' ++ h ++ slashes).getLast? = some c) :
      isBlank c = false := by
    cases hs : slashes.getLast? with
    | none =>
      rw [List.getLast?_eq_none_iff.mp hs, List.append_nil] at hc
      exact (hlast c hc).1
    | some slash =>
      rw [List.getLast?_append, hs] at hc
      obtain rfl := Option.some.inj hc
      rw [hslashes _ (List.mem_of_getLast? hs)]
      decide
  have hends : dropEndWhile (· == '/') (trimBy isBlank
      (before ++ schemeMark scheme ++ (h ++ slashes ++ after))) = schemeMark scheme' ++ h := by
    rw [trimBy, hdrop, ← List.append_assoc, ← List.append_assoc,
      Text.dropEndWhile_append hblank hafter, Text.dropEndWhile_append
        (fun c hc => by simpa using (hlast c hc).2) (fun c hc => by simpa using hslashes c hc)]
  unfold host
  rw [String.toList_ofList, hends]
  cases scheme' with
  | none =>
    dsimp only
    rw [schemeMark, List.nil_append, splitAt?_of_not_infix hbare.noMark]
  | some s =>
    dsimp only
    rw [schemeMark, splitAt?_append (hscheme' s rfl)]

theorem host_of_bare {domain : String} (h : IsBareHost domain.toList) :
    host domain = domain.toList := by
  have hself : host (String.ofList ([] ++ schemeMark none ++ (domain.toList ++ [] ++ []))) =
      domain.toList := host_decorated h nofun nofun nofun nofun
  simpa [schemeMark] using hself

/-- Nothing is left of a shop exactly when it has no more than slashes with blanks around them. -/
theorem host_eq_nil_iff {domain : String} : host domain = [] ↔
    ∃ before slashes after, domain.toList = before ++ slashes ++ after ∧
      (∀ c ∈ before, isBlank c = true) ∧ (∀ c ∈ slashes, c = '/') ∧
        ∀ c ∈ after, isBlank c = true := by
  constructor
  · intro h
    obtain ⟨before, after, heq, hbefore, hafter⟩ :=
      Text.exists_eq_append_trimBy isBlank domain.toList
    refine ⟨before, _, after, heq, hbefore, ?_, hafter⟩
    suffices hnil : dropEndWhile (· == '/') (trimBy isBlank domain.toList) = [] by
      rw [Text.dropEndWhile_eq, List.rdropWhile_eq_nil_iff] at hnil
      exact fun c hc => by simpa using hnil c hc
    unfold host at h
    dsimp only at h
    split at h
    · -- Then the mark of a scheme would end the text, but no slash stands there any more.
      rename_i pre rest hsplit
      obtain rfl : rest = [] := h
      have hmark := eq_of_splitAt? hsplit
      have hslash := Text.dropEndWhile_getLast? (· == '/') (trimBy isBlank domain.toList) '/'
        (by simp [hmark])
      exact absurd hslash (by decide)
    · exact h
  · rintro ⟨before, slashes, after, heq, hbefore, hslashes, hafter⟩
    have hplain (c : Char) (hc : c ∈ slashes) : isBlank c = false := by
      rw [hslashes c hc]
      decide
    have htrim : trimBy isBlank domain.toList = slashes := by
      rw [heq]
      exact Text.trimBy_between hbefore (fun c hc => hplain c (List.mem_of_head? hc))
        (fun c hc => hplain c (List.mem_of_getLast? hc)) hafter
    have hnil : dropEndWhile (· == '/') slashes = [] := by
      rw [Text.dropEndWhile_eq, List.rdropWhile_eq_nil_iff]
      exact fun c hc => by simpa using hslashes c hc
    unfold host
    rw [htrim, hnil]
    rfl

end Endpoint

namespace Address

/-- The part of a text up to the path of an address. -/
def authorityOf (cs : List Char) : List Char := cs.takeWhile fun c => c ≠ '/' && c ≠ '?' && c ≠ '#'

/-- Holds of a text that names a host: behind the last at-sign, if there is one, comes something
before the path, and it is more than a port. -/
def NamesHost (cs : List Char) : Prop := ∃ user c rest, authorityOf cs = user ++ c :: rest ∧
  (∀ d, user.getLast? = some d → d = '@') ∧ '@' ∉ c :: rest ∧ c ≠ ':'

theorem splitAuthority_append {user tail : List Char}
    (huser : ∀ d, user.getLast? = some d → d = '@') (htail : '@' ∉ tail) :
    (splitAuthority (user ++ tail)).2.1 =
      let bracketed := if tail.head? = some '[' then Text.dropEndWhile (· ≠ ']') tail else []
      if bracketed.isEmpty then tail.takeWhile (· ≠ ':') else bracketed := by
  have hreverse : (user ++ tail).reverse.takeWhile (· ≠ '@') = tail.reverse := by
    rw [List.reverse_append]
    refine Text.takeWhile_append (fun c hc => ?_) fun d hd => ?_
    · simpa using fun he : c = '@' => htail (he ▸ List.mem_reverse.mp hc)
    · simpa using huser d (by simpa using hd)
  simp only [splitAuthority, hreverse, List.reverse_reverse]

/-- Behind the user, a host is read exactly when something comes first that is not the mark of a
port. -/
theorem splitAuthority_host_ne_nil {user tail : List Char}
    (huser : ∀ d, user.getLast? = some d → d = '@') (htail : '@' ∉ tail) :
    (splitAuthority (user ++ tail)).2.1 ≠ [] ↔ ∃ c rest, tail = c :: rest ∧ c ≠ ':' := by
  rw [splitAuthority_append huser htail]
  cases tail with
  | nil => simp
  | cons c rest =>
    have htake : (c :: rest).takeWhile (· ≠ ':') ≠ [] ↔ c ≠ ':' := by
      by_cases hc : c = ':' <;> simp [hc]
    dsimp only
    by_cases hbracket : c = '['
    · subst hbracket
      have hport : ('[' : Char) ≠ ':' := by decide
      rw [List.head?_cons, if_pos rfl]
      refine ⟨fun _ => ⟨_, _, rfl, hport⟩, fun _ => ?_⟩
      split
      · exact htake.mpr hport
      · rename_i hne
        simpa using hne
    · have hhead : ¬ (c :: rest).head? = some '[' := by simpa using hbracket
      rw [if_neg hhead, List.isEmpty_nil, if_pos rfl, htake]
      constructor
      · exact fun hc => ⟨c, rest, rfl, hc⟩
      · rintro ⟨_, _, heq, hc⟩
        obtain ⟨rfl, -⟩ := List.cons.inj heq
        exact hc

theorem host_ne_nil_iff (cs : List Char) :
    (splitAuthority (authorityOf cs)).2.1 ≠ [] ↔ NamesHost cs := by
  constructor
  · intro h
    have heq : (authorityOf cs).rdropWhile (· ≠ '@') ++ (authorityOf cs).rtakeWhile (· ≠ '@') =
        authorityOf cs := List.rdropWhile_append_rtakeWhile
    have huser (d : Char) (hd : ((authorityOf cs).rdropWhile (· ≠ '@')).getLast? = some d) :
        d = '@' := by
      simpa using Text.dropEndWhile_getLast? (· ≠ '@') (authorityOf cs) d hd
    have htail : '@' ∉ (authorityOf cs).rtakeWhile (· ≠ '@') := fun hmem => by
      simpa using List.mem_rtakeWhile_imp hmem
    rw [← heq, splitAuthority_host_ne_nil huser htail] at h
    obtain ⟨c, rest, hrest, hc⟩ := h
    rw [hrest] at heq htail
    exact ⟨_, c, rest, heq.symm, huser, htail, hc⟩
  · rintro ⟨user, c, rest, heq, huser, htail, hc⟩
    rw [heq, splitAuthority_host_ne_nil huser htail]
    exact ⟨c, rest, rfl, hc⟩

theorem takeWhile_authority (cs rest : List Char) :
    (cs ++ '/' :: rest).takeWhile (fun c => c ≠ '/' && c ≠ '?' && c ≠ '#') = authorityOf cs := by
  induction cs with
  | nil => rfl
  | cons c cs ih =>
    unfold authorityOf at ih ⊢
    rw [List.cons_append, List.takeWhile_cons, List.takeWhile_cons, ih]

theorem splitScheme_mark (rest : List Char) : splitScheme (':' :: rest) = ([], rest) := by
  have hfirst : splitFirst ':' (':' :: rest) = ([], some rest) :=
    splitFirst_append List.not_mem_nil rest
  rw [splitScheme, hfirst]

/-- What stands before a colon and is no scheme begins a path, and there is no host behind it. -/
theorem split_of_not_scheme {c : Char} {cs : List Char} (hslash : c ≠ '/') (hcolon : ':' ∉ c :: cs)
    (h : ¬ IsSchemeName (c :: cs)) (rest : List Char) :
    (split (c :: cs ++ ':' :: rest)).host = [] := by
  have hscheme : splitScheme (c :: cs ++ ':' :: rest) = ([], c :: cs ++ ':' :: rest) := by
    rw [splitScheme, splitFirst_append hcolon]
    refine if_neg fun hname => ?_
    obtain ⟨hc, hcs⟩ := (Bool.and_eq_true _ _).mp hname
    exact h ⟨c, cs, rfl, hc, hcs⟩
  unfold split
  simp only [hscheme]
  split
  · rename_i hbegins
    exact absurd (List.cons.inj hbegins).1 hslash
  · rfl

/-- The host that is read in an address is the one that was named, as long as the address begins
with a scheme or with the mark behind one. -/
theorem split_host {scheme host path tail : List Char} (hcolon : ':' ∉ scheme)
    (hslash : '/' ∉ scheme) : (split (assembled scheme host path tail)).host ≠ [] ↔
      (scheme = [] ∨ IsSchemeName scheme) ∧ NamesHost host := by
  have hparts : assembled scheme host path tail =
      scheme ++ ':' :: '/' :: '/' :: (host ++ '/' :: (path ++ tail)) := by
    simp [assembled]
  rw [hparts]
  by_cases hname : scheme = [] ∨ IsSchemeName scheme
  · have hscheme (rest : List Char) : splitScheme (scheme ++ ':' :: rest) = (scheme, rest) := by
      rcases hname with rfl | h
      · exact splitScheme_mark rest
      · exact splitScheme_append h rest
    rw [and_iff_right hname, ← host_ne_nil_iff]
    unfold split
    simp only [hscheme, takeWhile_authority]
  · obtain ⟨hne, hno⟩ := not_or.mp hname
    obtain ⟨c, cs, rfl⟩ := List.exists_cons_of_ne_nil hne
    have hnone := split_of_not_scheme (fun he => hslash (he ▸ List.mem_cons_self)) hcolon hno
    exact ⟨fun hhost => absurd (hnone _) hhost, fun hboth => absurd hboth.1 hname⟩

theorem plain_of_all {cs : List Char} (h : cs.all (· ∉ ['/', '?', '#', '@', ':']) = true) :
    ∀ c ∈ cs, c ∉ ['/', '?', '#', '@', ':'] := fun c hc =>
  of_decide_eq_true (List.all_eq_true.mp h c hc)

/-- A text without the marks of an address names a host unless it is empty. -/
theorem namesHost_of_plain {cs : List Char} (h : ∀ c ∈ cs, c ∉ ['/', '?', '#', '@', ':']) :
    NamesHost cs ↔ cs ≠ [] := by
  have hall : authorityOf cs = cs := by
    refine List.takeWhile_eq_self_iff.mpr fun c hc => ?_
    have hc := h c hc
    simp only [List.mem_cons, not_or] at hc
    simp [hc]
  constructor
  · rintro ⟨user, c, rest, heq, -⟩ rfl
    simp [authorityOf] at heq
  · intro hne
    obtain ⟨c, rest, rfl⟩ := List.exists_cons_of_ne_nil hne
    refine ⟨[], c, rest, hall, nofun, fun hmem => h _ hmem (by simp), ?_⟩
    rintro rfl
    exact h ':' List.mem_cons_self (by simp)

end Address

namespace Endpoint

open Address (split IsSchemeName NamesHost)
open Text (isBlank)

variable {scheme domain domain' : String}

theorem isEmpty_eq_false {s : String} (h : s.toList ≠ []) : s.isEmpty = false := by
  cases he : s.isEmpty with
  | false => rfl
  | true => exact absurd (by rw [String.isEmpty_iff.mp he]; rfl) h

theorem address?_eq_none_iff (scheme domain : String) (segments : List Argument)
    (query : Pairs Argument) :
    address? scheme (some domain) segments query = none ↔ domain = "" := by
  cases h : domain.isEmpty with
  | true => simp [address?, String.isEmpty_iff.mp h]
  | false =>
    rw [address?_eq h]
    have hne : domain ≠ "" := fun he => by simp [he] at h
    simp [hne]

/-- Only the host of a shop shows in an address. -/
theorem address?_congr (h : host domain = host domain') (hd : domain.isEmpty = false)
    (hd' : domain'.isEmpty = false) (scheme : String) (segments : List Argument)
    (query : Pairs Argument) : address? scheme (some domain) segments query =
      address? scheme (some domain') segments query := by
  rw [address?_eq hd, address?_eq hd', h]

theorem validate_eq_ok_iff {s : Settings} (h : s.shopDomain = some domain) :
    s.validate = .ok () ↔ domain ≠ "" := by
  unfold Settings.validate
  rw [h, Option.getD_some]
  cases he : domain.isEmpty with
  | true => simp [String.isEmpty_iff.mp he]
  | false =>
    have hne : domain ≠ "" := fun he' => by simp [he'] at he
    simp [hne]

/-- A shop is refused exactly when its name is empty, as settings do, and in no other case. The
address at any other shop has a host exactly when its name names one and the scheme is empty or the
name of a scheme, for every path and query. When the name of the shop has no further mark of an
address, only slashes with blanks around them, or blanks alone, name no host. A bare host with
blanks, a scheme and slashes around it gives the same address as the host alone. -/
theorem only_empty_shop_is_refused (domain scheme : String) (segments : List Argument)
    (query : Pairs Argument) :
    (address? scheme (some domain) segments query = none ↔ domain = "") ∧
    (∀ s : Settings, s.shopDomain = some domain → (s.validate = .ok () ↔ domain ≠ "")) ∧
    (∀ url, address? scheme (some domain) segments query = some url →
      ':' ∉ scheme.toList → '/' ∉ scheme.toList → ((split url.toList).host ≠ [] ↔
        (scheme = "" ∨ IsSchemeName scheme.toList) ∧ NamesHost (host domain))) ∧
    ((∀ c ∈ host domain, c ∉ ['/', '?', '#', '@', ':']) → (¬ NamesHost (host domain) ↔
      ∃ before slashes after, domain.toList = before ++ slashes ++ after ∧
        (∀ c ∈ before, isBlank c = true) ∧ (∀ c ∈ slashes, c = '/') ∧
          ∀ c ∈ after, isBlank c = true)) ∧
    ∀ (before slashes after : List Char) (mark : Option (List Char)), IsBareHost domain.toList →
      (∀ c ∈ before, isBlank c = true) → (∀ s ∈ mark, ¬ "://".toList <:+: s) →
      (∀ c ∈ slashes, c = '/') → (∀ c ∈ after, isBlank c = true) →
      address? scheme (some (String.ofList
          (before ++ schemeMark mark ++ (domain.toList ++ slashes ++ after)))) segments query =
        address? scheme (some domain) segments query := by
  refine ⟨address?_eq_none_iff _ _ _ _, fun s => validate_eq_ok_iff,
    fun url hurl hcolon hslash => ?_, fun hplain => ?_,
    fun before slashes after mark hbare hbefore hmark hslashes hafter => ?_⟩
  · have hne : domain.isEmpty = false := by
      cases he : domain.isEmpty with
      | false => rfl
      | true => simp [address?, he] at hurl
    rw [address?_eq hne] at hurl
    rw [← Option.some.inj hurl, String.toList_ofList, Address.split_host hcolon hslash,
      String.toList_eq_nil_iff]
  · rw [Address.namesHost_of_plain hplain, not_not, host_eq_nil_iff]
  · have hhost := host_decorated hbare hbefore hmark hslashes hafter
    rw [address?_congr (hhost.trans (host_of_bare hbare).symm) (isEmpty_eq_false ?_)
      (isEmpty_eq_false hbare.nonempty)]
    rw [String.toList_ofList]
    simp [hbare.nonempty]

theorem isBareHost_example : IsBareHost "shop.example".toList := by
  refine ⟨by decide, by decide +kernel, ?_, ?_⟩
  · rintro _ ⟨⟩
    decide
  · rintro _ ⟨⟩
    decide

/-- A shop whose name stands between blanks, a scheme and slashes, and one that is a slash. -/
theorem only_empty_shop_is_refused_of_decorated :
    address? "http" (some " https://shop.example// \t") [.text "customers"] [] =
      address? "http" (some "shop.example") [.text "customers"] [] ∧
    (∃ url, address? "http" (some "shop.example") [.text "customers"] [] = some url ∧
      (split url.toList).host ≠ []) ∧
    ¬ NamesHost (host " / ") := by
  have hscheme : IsSchemeName "http".toList := ⟨'h', "ttp".toList, rfl, by decide, by decide⟩
  have hcolon : ':' ∉ "http".toList := by decide
  have hslash : '/' ∉ "http".toList := by decide
  obtain ⟨-, -, hhost, -, hsame⟩ :=
    only_empty_shop_is_refused "shop.example" "http" [.text "customers"] []
  obtain ⟨-, -, -, hbare, -⟩ := only_empty_shop_is_refused " / " "http" [.text "customers"] []
  have hmark : ∀ s ∈ some "https".toList, ¬ "://".toList <:+: s := by
    rintro _ ⟨⟩
    decide +kernel
  have hnamed : NamesHost (host "shop.example") :=
    (Address.namesHost_of_plain (Address.plain_of_all (by decide +kernel))).mpr (by decide +kernel)
  have hblanks : ∀ c ∈ [' ', '\t'], isBlank c = true := List.all_eq_true.mp (by decide)
  have hblank : ∀ c ∈ [' '], isBlank c = true := List.all_eq_true.mp (by decide)
  refine ⟨hsame [' '] ['/', '/'] [' ', '\t'] (some "https".toList) isBareHost_example hblank hmark
    (by simp) hblanks, ⟨_, rfl, (hhost _ rfl hcolon hslash).mpr ⟨.inr hscheme, hnamed⟩⟩, ?_⟩
  exact (hbare (Address.plain_of_all (by decide +kernel))).mpr
    ⟨[' '], ['/'], [' '], rfl, hblank, by simp, hblank⟩

/-- A blank name is accepted by settings, and leads to an address without a host. -/
theorem blank_shop_has_no_host :
    ({ shopDomain := some " " } : Settings).validate = .ok () ∧
    Endpoint.customers.url? "https" (some " ") [] = some "https:///api/customers" ∧
    (split "https:///api/customers".toList).host = [] := by
  refine ⟨rfl, ?_, ?_⟩
  · decide +kernel
  · decide +kernel

end Endpoint

end Storefront
