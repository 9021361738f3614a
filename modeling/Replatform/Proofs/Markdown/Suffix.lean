import Mathlib.Tactic.SplitIfs
import Replatform.Markdown.Blocks

/-!
# What Is Left of a Text

A place in a Markdown text is given by all that follows, and reading goes from one place to a later
one. So whatever reads, be it a blank column, the start of a line or a link reference definition,
leaves an end of what it was given. That is said here once for each reader, in the order in which
they use one another. What is found behind a place is then found in the text, which is all that
has to be known of most readers.

## Theorems

* `suffix_takeSpace`, `suffix_matchContainers`, `suffix_openContainers`: The starts of a line.
* `suffix_definition?`: Link reference definitions.
-/

namespace Replatform

namespace Markdown

section Lines

theorem suffix_afterLine (cs : List Char) : afterLine cs <:+ cs := by
  fun_induction afterLine cs with
  | case1 => exact List.suffix_refl []
  | case2 cs => exact List.suffix_cons _ cs
  | case3 cs => exact (List.suffix_cons _ cs).trans (List.suffix_cons _ _)
  | case4 cs => exact List.suffix_cons _ cs
  | case5 c cs _ _ _ ih => exact ih.trans (List.suffix_cons c cs)

theorem suffix_splitCode (cs : List Char) : (splitCode cs).2 <:+ cs := by
  have hdrop : cs.dropWhile (· != '\n') <:+ cs := List.dropWhile_suffix _
  unfold splitCode
  cases hrest : cs.dropWhile (· != '\n') with
  | nil => exact List.nil_suffix
  | cons c rest => exact (List.suffix_cons c rest).trans (hrest ▸ hdrop)

theorem suffix_skipBlanks (cs : List Char) : skipBlanks cs <:+ cs :=
  List.dropWhile_suffix isBlank

theorem suffix_takeSpace (n : Nat) (c : Cursor) : (c.takeSpace n).2.rest <:+ c.rest := by
  fun_induction Cursor.takeSpace n c with
  | case1 c => exact List.suffix_refl c.rest
  | case2 n rest column spare k c hrest ih =>
      rw [hrest] at ih
      exact ih
  | case3 n rest column k c hrest ih =>
      rw [hrest] at ih
      exact ih.trans (List.suffix_cons ' ' rest)
  | case4 n rest column width k c hrest ih =>
      rw [hrest] at ih
      exact ih.trans (List.suffix_cons '\t' rest)
  | case5 n c => exact List.suffix_refl c.rest

theorem suffix_advance (n : Nat) (c : Cursor) : (c.advance n).rest <:+ c.rest :=
  List.drop_suffix n c.rest

theorem suffix_codeLine (c : Cursor) : (codeLine c).2 <:+ c.rest :=
  suffix_splitCode c.rest

end Lines

section Containers

theorem suffix_continue? {container : Container} {c after : Cursor}
    (h : container.continue? c = some after) : after.rest <:+ c.rest := by
  cases container with
  | quote =>
      have hspace := suffix_takeSpace 3 c
      simp only [Container.continue?] at h
      split at h
      · next rest hrest =>
        rw [hrest] at hspace
        rw [← Option.some.inj h]
        exact (suffix_takeSpace 1 _).trans ((List.suffix_cons '>' rest).trans hspace)
      · exact absurd h nofun
  | item indent =>
      simp only [Container.continue?] at h
      split at h
      · rw [← Option.some.inj h]
        exact suffix_takeSpace indent c
      · exact absurd h nofun

theorem suffix_matchContainers (containers : List Container) (c : Cursor) :
    (matchContainers containers c).2.rest <:+ c.rest := by
  induction containers generalizing c with
  | nil => exact List.suffix_refl c.rest
  | cons container containers ih =>
      rw [matchContainers]
      cases hcontinue : container.continue? c with
      | none => exact List.suffix_refl c.rest
      | some after => exact (ih after).trans (suffix_continue? hcontinue)

theorem suffix_openContainers (fuel : Nat) (c : Cursor) :
    (openContainers fuel c).2.1.rest <:+ c.rest := by
  induction fuel generalizing c with
  | zero => exact List.suffix_refl c.rest
  | succ fuel ih =>
      have hstart := suffix_takeSpace 4 c
      simp only [openContainers]
      generalize (c.takeSpace 4).2 = start at hstart ⊢
      have hmarked : ∀ n, (start.advance n).rest <:+ c.rest := fun n =>
        (suffix_advance n start).trans hstart
      split_ifs with hindent
      · exact List.suffix_refl c.rest
      · split
        · next length able hmarker =>
          split_ifs with hblank hinner
          · exact hmarked length
          · exact (ih _).trans ((suffix_takeSpace 1 _).trans (hmarked length))
          · exact (ih _).trans ((suffix_takeSpace 4 _).trans ((suffix_takeSpace 1 _).trans
              (hmarked length)))
        · split
          · exact (ih _).trans ((suffix_takeSpace 1 _).trans (hmarked 1))
          · exact List.suffix_refl c.rest

theorem suffix_sequel (inside : Bool) (c : Cursor) : (sequel inside c).rest <:+ c.rest :=
  suffix_takeSpace 4 c

theorem suffix_sequelIn (containers : List Container) (cs : List Char) :
    (sequelIn containers cs).rest <:+ cs :=
  (suffix_sequel _ _).trans (suffix_matchContainers containers (Cursor.ofLine cs))

end Containers

section Definitions

variable {containers : List Container} {cs after : List Char}

theorem suffix_nextLine? (h : nextLine? containers cs = some after) : after <:+ cs := by
  simp only [nextLine?] at h
  split_ifs at h
  rw [← Option.some.inj h]
  exact (suffix_sequelIn containers _).trans (suffix_afterLine cs)

theorem suffix_label? {filled broken : Bool} {room : Nat}
    (h : label? containers filled broken room cs = some after) : after <:+ cs := by
  induction room generalizing filled broken cs with
  | zero => exact absurd h nofun
  | succ room ih =>
      cases cs with
      | nil => exact absurd h nofun
      | cons c cs =>
          have hcons := List.suffix_cons c cs
          rw [label?] at h
          split_ifs at h with hclose hfilled hopen hescape hend hbroken hblank
          · exact Option.some.inj h ▸ hcons
          · exact (ih h).trans ((List.tail_suffix cs).trans hcons)
          · cases hnext : nextLine? containers (c :: cs) with
            | none =>
                rw [hnext] at h
                exact absurd h nofun
            | some next =>
                rw [hnext] at h
                exact (ih h).trans (suffix_nextLine? hnext)
          · exact (ih h).trans hcons
          · exact (ih h).trans hcons

theorem suffix_partGap? {isBelow : Bool} (h : partGap? containers cs = some (after, isBelow)) :
    after <:+ cs := by
  simp only [partGap?] at h
  split_ifs at h with hend
  · cases hnext : nextLine? containers (skipBlanks cs) with
    | none =>
        rw [hnext] at h
        exact absurd h nofun
    | some next =>
        rw [hnext] at h
        simp only [] at h
        split_ifs at h with hempty
        rw [Option.some.injEq, Prod.mk.injEq] at h
        rw [← h.1]
        exact (suffix_skipBlanks next).trans ((suffix_nextLine? hnext).trans (suffix_skipBlanks cs))
  · rw [Option.some.injEq, Prod.mk.injEq] at h
    rw [← h.1]
    exact suffix_skipBlanks cs

theorem suffix_bracketed? (h : bracketed? cs = some after) : after <:+ cs := by
  fun_induction bracketed? cs with
  | case1 => exact absurd h nofun
  | case2 cs => exact Option.some.inj h ▸ List.suffix_cons '>' cs
  | case3 c cs _ ih => exact (ih h).trans ((List.suffix_cons c cs).trans (List.suffix_cons _ _))
  | case4 c cs _ ih => exact (ih h).trans (List.suffix_cons _ _)
  | case5 => exact absurd h nofun
  | case6 c cs _ _ _ ih => exact (ih h).trans (List.suffix_cons c cs)

theorem suffix_plain? {depth : Nat} (h : plain? depth cs = some after) : after <:+ cs := by
  fun_induction plain? depth cs with
  | case1 | case5 | case9 => exact Option.some.inj h ▸ List.suffix_refl _
  | case2 | case6 | case7 => exact absurd h nofun
  | case3 depth c cs _ ih =>
      exact (ih h).trans ((List.suffix_cons c cs).trans (List.suffix_cons _ _))
  | case4 depth c cs _ ih => exact (ih h).trans (List.suffix_cons _ _)
  | case8 depth c cs _ _ _ _ ih | case10 depth c cs _ _ _ _ _ ih | case11 depth c cs _ _ _ _ ih =>
      exact (ih h).trans (List.suffix_cons c cs)

theorem suffix_destination? (h : destination? cs = some after) : after <:+ cs := by
  unfold destination? at h
  split at h
  · next cs => exact (suffix_bracketed? h).trans (List.suffix_cons '<' cs)
  · cases hplain : plain? 0 cs with
    | none =>
        rw [hplain] at h
        exact absurd h nofun
    | some rest =>
        rw [hplain] at h
        simp only [] at h
        split_ifs at h
        exact Option.some.inj h ▸ suffix_plain? hplain

theorem suffix_titleRest? {mark : Char} {fuel : Nat}
    (h : titleRest? containers mark fuel cs = some after) : after <:+ cs := by
  fun_induction titleRest? containers mark fuel cs with
  | case1 | case2 | case4 | case6 | case8 => exact absurd h nofun
  | case3 fuel c cs => exact Option.some.inj h ▸ List.suffix_cons c cs
  | case5 fuel c cs _ _ _ ih =>
      refine (ih h).trans (List.IsSuffix.trans ?_ (List.suffix_cons c cs))
      split_ifs
      · exact List.suffix_refl cs
      · exact List.tail_suffix cs
  | case7 fuel c cs _ _ _ _ next hnext _ ih => exact (ih h).trans (suffix_nextLine? hnext)
  | case9 fuel c cs _ _ _ _ ih => exact (ih h).trans (List.suffix_cons c cs)

theorem suffix_title? (h : title? containers cs = some after) : after <:+ cs := by
  unfold title? at h
  split at h
  · next cs => exact (suffix_titleRest? h).trans (List.suffix_cons '(' cs)
  · next c cs _ =>
    split_ifs at h
    exact (suffix_titleRest? h).trans (List.suffix_cons c cs)
  · exact absurd h nofun

theorem suffix_definition? (h : definition? containers cs = some after) : after <:+ cs := by
  unfold definition? at h
  split at h
  · next cs =>
    obtain ⟨labelled, hlabel, h⟩ := Option.bind_eq_some_iff.mp h
    split at h
    · next rest =>
      obtain ⟨⟨target, below⟩, hgap, h⟩ := Option.bind_eq_some_iff.mp h
      obtain ⟨behind, hbehind, h⟩ := Option.bind_eq_some_iff.mp h
      have hstart : behind <:+ '[' :: cs :=
        (suffix_destination? hbehind).trans <| (suffix_partGap? hgap).trans <|
          (List.suffix_cons ':' rest).trans <| (suffix_label? hlabel).trans <|
            List.suffix_cons '[' cs
      refine List.IsSuffix.trans ?_ hstart
      -- The definition ends behind the destination, or behind a title that follows it.
      split at h
      · exact Option.some.inj h ▸ List.suffix_refl behind
      · next next isBelow hnext =>
        have htitle : ∀ titled, (title? containers next).filter isBlankLine = some titled →
            titled <:+ behind := fun titled htitled =>
          (suffix_title? (Option.filter_eq_some_iff.mp htitled).1).trans (suffix_partGap? hnext)
        simp only [] at h
        split_ifs at h
        · rw [← Option.some.inj h]
          cases htitled : (title? containers next).filter isBlankLine with
          | none => exact List.suffix_refl behind
          | some titled => exact htitle titled htitled
        · exact htitle after h
    · exact absurd h nofun
  · exact absurd h nofun

end Definitions

end Markdown

end Replatform
