/-
  The text of a SIDHEADERS, written and read back.

  `send_headers` writes three lines, a key and a value with a tab between them; the reader splits
  the text at newlines and each line at tabs, and skips a line that is not in two parts.  Nothing
  is escaped.  Status and content length are decimal numbers, so they come back as they were; the
  mime type is any text, and comes back if it has neither a tab nor a newline in it.  With a tab in
  it its line is in three parts and is skipped; with a newline it becomes several lines, and each
  of the later ones is taken for whatever it looks like, a status among them.

  The numbers are `int`s.  `operator<<` writes one in decimal, and `atoi` reads it as a `long` and
  cuts that down to 32 bits, which gives back every `int`; a number beyond that is read modulo 2^32,
  which matters for what a mime type can be mistaken for.

  1. `splitAt_sep`, `splitAt_lead` — splitting what was put together.
  2. `leadingInt_toString`, `atoi_toString` — decimal numbers come back.
  3. `lines_headers`, `abortsHeaders_headers`, `headerCalls_headers` — the three lines, when they
     cancel a transfer and what they tell an adaptor.
  4. `Plain`, `headerCalls_plain` — a mime type of one part comes back as well.
-/
import Greynet.TransferCalls

namespace Greynet

/-! ## Splitting -/

/-- Two texts with a separator between them split into the parts of the one and the parts of the
    other. -/
theorem splitAt_sep (s s' : String) {sep : String} {d : Char} (hsep : sep.toList = [d]) :
    splitAt (s ++ sep ++ s') d = splitAt s d ++ splitAt s' d := by
  unfold splitAt
  rw [String.toList_append, String.toList_append, hsep, List.append_assoc, List.singleton_append,
    List.splitOn_append_cons_self, List.map_append]

/-- A text without the separator is its own and only part. -/
theorem splitAt_eq_singleton {s : String} {d : Char} (h : d ∉ s.toList) : splitAt s d = [s] := by
  unfold splitAt
  rw [List.splitOn_eq_singleton h, List.map_singleton, String.ofList_toList]

/-- Text put in front of the first part: without a separator of its own it is joined to that part,
    and the other parts stay. -/
theorem splitAt_lead (s s' : String) {d : Char} (h : d ∉ s.toList) :
    ∃ l ls, splitAt s' d = l :: ls ∧ splitAt (s ++ s') d = (s ++ l) :: ls := by
  have hlead : ∀ cs : List Char, d ∉ cs →
      (cs ++ s'.toList).splitOn d = (s'.toList.splitOn d).modifyHead (cs ++ ·) := by
    intro cs
    induction cs with
    | nil =>
      intro _
      rw [List.nil_append]
      cases s'.toList.splitOn d <;> rfl
    | cons c cs ih =>
      intro hcs
      obtain ⟨hc, hcs⟩ := not_or.mp (List.mem_cons.not.mp hcs)
      rw [List.cons_append, List.splitOn_cons_eq_if_modifyHead, ih hcs,
        if_neg (by simpa using Ne.symm hc)]
      cases s'.toList.splitOn d <;> rfl
  obtain ⟨l, ls, hl⟩ := List.exists_cons_of_ne_nil (List.splitOn_ne_nil d s'.toList)
  refine ⟨String.ofList l, ls.map String.ofList, by rw [splitAt, hl, List.map_cons], ?_⟩
  rw [splitAt, String.toList_append, hlead _ h, hl, List.modifyHead_cons, List.map_cons]
  simp

/-- A part has no separator in it, which is what splitting is for. -/
theorem notMem_of_mem_splitAt {s l : String} {d : Char} (h : l ∈ splitAt s d) : d ∉ l.toList := by
  have hparts : ∀ cs : List Char, ∀ p ∈ cs.splitOn d, d ∉ p := by
    intro cs
    induction cs with
    | nil => simp
    | cons c cs ih =>
      intro p hp
      rw [List.splitOn_cons_eq_if_modifyHead] at hp
      split at hp
      · rcases List.mem_cons.mp hp with rfl | hp
        · exact List.not_mem_nil
        · exact ih p hp
      · rename_i hc
        obtain ⟨q, qs, hq⟩ := List.exists_cons_of_ne_nil (List.splitOn_ne_nil d cs)
        rw [hq] at ih hp
        rcases List.mem_cons.mp hp with rfl | hp
        · refine List.mem_cons.not.mpr (not_or.mpr ⟨?_, ih q (List.mem_cons_self ..)⟩)
          rintro rfl
          exact hc (by simp)
        · exact ih p (List.mem_cons_of_mem _ hp)
  obtain ⟨p, hp, rfl⟩ := List.mem_map.mp h
  rw [String.toList_ofList]
  exact hparts _ p hp

/-- What is in a part is in the whole; so a mime type without tabs has no tab in any of its
    lines. -/
theorem mem_of_mem_splitAt {s l : String} {c d : Char} (h : l ∈ splitAt s d) (hc : c ∈ l.toList) :
    c ∈ s.toList := by
  have hparts : ∀ cs : List Char, ∀ p ∈ cs.splitOn d, ∀ x ∈ p, x ∈ cs := by
    intro cs
    induction cs with
    | nil => simp
    | cons b cs ih =>
      intro p hp x hx
      rw [List.splitOn_cons_eq_if_modifyHead] at hp
      split at hp
      · rcases List.mem_cons.mp hp with rfl | hp
        · cases hx
        · exact List.mem_cons_of_mem _ (ih p hp x hx)
      · obtain ⟨q, qs, hq⟩ := List.exists_cons_of_ne_nil (List.splitOn_ne_nil d cs)
        rw [hq] at ih hp
        rcases List.mem_cons.mp hp with rfl | hp
        · rcases List.mem_cons.mp hx with rfl | hx
          · exact List.mem_cons_self ..
          · exact List.mem_cons_of_mem _ (ih q (List.mem_cons_self ..) x hx)
        · exact List.mem_cons_of_mem _ (ih p (List.mem_cons_of_mem _ hp) x hx)
  obtain ⟨p, hp, rfl⟩ := List.mem_map.mp h
  rw [String.toList_ofList] at hc
  exact hparts _ p hp c hc

/-! ## Decimal numbers -/

/-- On digits, `atoiDigits` is Horner's scheme, as the library has it. -/
theorem atoiDigits_eq (cs : List Char) (h : ∀ c ∈ cs, c.isDigit) :
    ∀ acc, atoiDigits acc cs = Nat.ofDigitChars 10 cs acc := by
  induction cs with
  | nil => intro acc; rfl
  | cons c cs ih =>
    intro acc
    have hc := h c (List.mem_cons_self ..)
    rw [atoiDigits, if_pos hc, ih (fun x hx => h x (List.mem_cons_of_mem _ hx)),
      Nat.ofDigitChars_cons, Nat.mul_comm]

/-- A number is written in digits. -/
theorem isDigit_of_mem_repr {n : Nat} {c : Char} (h : c ∈ n.repr.toList) : c.isDigit = true := by
  rw [Nat.toList_repr] at h
  exact Nat.isDigit_of_mem_toDigits (by decide) (by decide) h

/-- A natural number is read back as it was written. -/
theorem atoiDigits_repr (n : Nat) : atoiDigits 0 n.repr.toList = n := by
  rw [atoiDigits_eq _ (fun c hc => isDigit_of_mem_repr hc), Nat.toList_repr,
    Nat.ofDigitChars_ten_toDigits]

/-- The number read off what `operator<<` wrote is the number it wrote, however large and whatever
    its sign; only `strtol` and the cast to `int` know of any bounds. -/
theorem leadingInt_toString (n : Int) : leadingInt (toString n) = n := by
  -- nothing that `operator<<` writes first is skipped as white space
  have hspace : ∀ c : Char, c.isDigit = true ∨ c = '-' → isSpace c = false := by
    rintro c (hc | rfl)
    · unfold isSpace
      rw [Bool.eq_false_iff]
      intro h
      simp only [Bool.or_eq_true, decide_eq_true_eq] at h
      rcases h with (((((rfl | rfl) | rfl) | rfl) | rfl) | rfl) <;> revert hc <;> decide
    · decide
  cases n with
  | ofNat n =>
    obtain ⟨c, cs, hcs⟩ := List.exists_cons_of_ne_nil
      (show n.repr.toList ≠ [] by rw [Nat.toList_repr]; exact Nat.toDigits_ne_nil)
    have hc : c.isDigit = true := isDigit_of_mem_repr (hcs ▸ List.mem_cons_self ..)
    have hread := atoiDigits_repr n
    show leadingInt n.repr = n
    unfold leadingInt
    rw [hcs] at hread ⊢
    rw [List.dropWhile_cons, if_neg (by simp [hspace c (Or.inl hc)])]
    split
    · rename_i he
      exact absurd hc (by rw [(List.cons.inj he).1]; decide)
    · rename_i he
      exact absurd hc (by rw [(List.cons.inj he).1]; decide)
    · rw [hread]
  | negSucc n =>
    have hlist : (toString (Int.negSucc n)).toList = '-' :: (n + 1).repr.toList := by
      show ("-" ++ (n + 1).repr).toList = _
      rw [String.toList_append]
      rfl
    unfold leadingInt
    rw [hlist, List.dropWhile_cons, if_neg (by simp [hspace '-' (Or.inr rfl)])]
    simp only
    rw [atoiDigits_repr]
    rfl

/-- **`atoi` reads what `operator<<` wrote for an `int`**: an `int` is a `long`, so `strtol` does
    not cut it off, and the low 32 bits are all there is to it. -/
theorem atoi_toString (n : Int32) : atoi (toString n) = n := by
  have hlong : strtol (toString n.toInt) = n.toInt := by
    have hlo := n.le_toInt
    have hhi := n.toInt_lt
    rw [strtol, leadingInt_toString]
    omega
  show Int32.ofInt (strtol (toString n.toInt)) = n
  rw [hlong, Int32.ofInt_toInt]

/-- Out of the range of an `int` it does not: the number is 2^32 and 200 more, and it is read as
    the status that lets a stream go on. -/
example : atoi "4294967496" = 200 := by decide

/-- A number has neither a tab nor a newline in it, so its line is one line of two parts. -/
theorem notMem_toString {d : Char} (hd : d = '\t' ∨ d = '\n') (n : Int32) :
    d ∉ (toString n).toList := by
  have hrepr : ∀ n : Nat, d ∉ n.repr.toList := by
    intro n h
    have hc := isDigit_of_mem_repr h
    rcases hd with rfl | rfl <;> revert hc <;> decide
  show d ∉ (toString n.toInt).toList
  cases n.toInt with
  | ofNat n => exact hrepr n
  | negSucc n =>
    show d ∉ ("-" ++ (n + 1).repr).toList
    rw [String.toList_append, List.mem_append, not_or]
    refine ⟨?_, hrepr _⟩
    rcases hd with rfl | rfl <;> decide

/-! ## Header lines -/

/-- A line with a key and a value, at the tabs: the key is the first part, and the value is in as
    many parts as it has itself. -/
theorem splitAt_keyed {key lead : String} (v : String) (hlead : lead = key ++ "\t")
    (hkey : '\t' ∉ key.toList) : splitAt (lead ++ v) '\t' = key :: splitAt v '\t' := by
  rw [hlead, splitAt_sep key v rfl, splitAt_eq_singleton hkey, List.singleton_append]

/-- A text without a tab is one part, and one with a tab is more. -/
theorem splitAt_one_iff {v x : String} {d : Char} : splitAt v d = [x] ↔ d ∉ v.toList ∧ x = v := by
  constructor
  · intro h
    have hd : d ∉ v.toList := by
      intro hin
      obtain ⟨as, bs, hv⟩ := List.append_of_mem hin
      have hlen := congrArg List.length h
      rw [splitAt, hv, List.splitOn_append_cons_self, List.map_append, List.length_append,
        List.length_map, List.length_map, List.length_singleton] at hlen
      have h₁ := List.length_pos_of_ne_nil (List.splitOn_ne_nil d as)
      have h₂ := List.length_pos_of_ne_nil (List.splitOn_ne_nil d bs)
      omega
    rw [splitAt_eq_singleton hd] at h
    exact ⟨hd, (List.cons.inj h).1.symm⟩
  · rintro ⟨hd, rfl⟩
    exact splitAt_eq_singleton hd

namespace Transfers

/-- What a line is that has this key: the call for the key, if the value has no tab in it, and
    nothing if it has one, for then the line is not in two parts. -/
theorem lineCall_keyed (key lead : String) (v : String) (hlead : lead = key ++ "\t")
    (hkey : '\t' ∉ key.toList) : lineCall (lead ++ v) =
      if '\t' ∈ v.toList then none
      else if key = "status" then some (.setStatusCode (atoi v))
      else if key = "mime-type" then some (.setMimeType v)
      else if key = "content-length" then some (.setContentLength (atoi v))
      else none := by
  have hsplit := splitAt_keyed v hlead hkey
  by_cases hv : '\t' ∈ v.toList
  · rw [if_pos hv]
    unfold lineCall
    split
    · rename_i hpair
      rw [hsplit] at hpair
      exact absurd hv (splitAt_one_iff.mp (List.cons.inj hpair).2).1
    · rfl
  · rw [if_neg hv, lineCall, hsplit, splitAt_eq_singleton hv]

/-- And whether it cancels the transfer: only a status does, and only one that `atoi` does not read
    as 200. -/
theorem statusAborts_keyed (key lead : String) (v : String) (hlead : lead = key ++ "\t")
    (hkey : '\t' ∉ key.toList) : statusAborts (lead ++ v) =
      (decide ('\t' ∉ v.toList) && (decide (key = "status") && decide (atoi v ≠ 200))) := by
  have hsplit := splitAt_keyed v hlead hkey
  by_cases hv : '\t' ∈ v.toList
  · rw [decide_eq_false (not_not.mpr hv), Bool.false_and]
    unfold statusAborts
    split
    · rename_i hpair
      rw [hsplit] at hpair
      exact absurd hv (splitAt_one_iff.mp (List.cons.inj hpair).2).1
    · rfl
  · rw [decide_eq_true hv, Bool.true_and, statusAborts, hsplit, splitAt_eq_singleton hv]

/-- The line `send_headers` writes for the status ... -/
def statusLine (n : Int32) : String := "status\t" ++ toString n

/-- ... for the mime type ... -/
def mimeLine (m : String) : String := "mime-type\t" ++ m

/-- ... and for the content length. -/
def lengthLine (n : Int32) : String := "content-length\t" ++ toString n

/-- The status line calls the setter with the status that was written, by `atoi_toString`. -/
theorem lineCall_statusLine (n : Int32) : lineCall (statusLine n) = some (.setStatusCode n) := by
  show lineCall ("status\t" ++ toString n) = _
  rw [lineCall_keyed "status" "status\t" _ rfl (by decide),
    if_neg (notMem_toString (Or.inl rfl) n), if_pos rfl, atoi_toString]

/-- It cancels the transfer if that is another one than 200. -/
theorem statusAborts_statusLine (n : Int32) : statusAborts (statusLine n) = decide (n ≠ 200) := by
  show statusAborts ("status\t" ++ toString n) = _
  rw [statusAborts_keyed "status" "status\t" _ rfl (by decide),
    decide_eq_true (notMem_toString (Or.inl rfl) n), atoi_toString]
  rfl

/-- The line of a mime type calls the setter unless there is a tab in it. -/
theorem lineCall_mimeLine (m : String) :
    lineCall (mimeLine m) = if '\t' ∈ m.toList then none else some (.setMimeType m) := by
  show lineCall ("mime-type\t" ++ m) = _
  rw [lineCall_keyed "mime-type" "mime-type\t" _ rfl (by decide)]
  rfl

/-- It never cancels: its key is no status, whatever the mime type is. -/
theorem statusAborts_mimeLine (m : String) : statusAborts (mimeLine m) = false := by
  show statusAborts ("mime-type\t" ++ m) = _
  rw [statusAborts_keyed "mime-type" "mime-type\t" _ rfl (by decide)]
  simp

/-- The line of the content length calls the setter with the length that was written, ... -/
theorem lineCall_lengthLine (n : Int32) : lineCall (lengthLine n) = some (.setContentLength n) := by
  show lineCall ("content-length\t" ++ toString n) = _
  rw [lineCall_keyed "content-length" "content-length\t" _ rfl (by decide),
    if_neg (notMem_toString (Or.inl rfl) n), atoi_toString]
  rfl

/-- ... and cancels nothing. -/
theorem statusAborts_lengthLine (n : Int32) : statusAborts (lengthLine n) = false := by
  show statusAborts ("content-length\t" ++ toString n) = _
  rw [statusAborts_keyed "content-length" "content-length\t" _ rfl (by decide)]
  simp

/-- The lines before one that cancels, and those after lines that do not: as long as no line
    cancels, the loop goes on to the next, so the calls of two batches are those of the one and
    those of the other. -/
theorem headerCalls_append {lines lines' : List String} (h : lines.any statusAborts = false) :
    headerCalls (lines ++ lines') = headerCalls lines ++ headerCalls lines' := by
  induction lines with
  | nil => rfl
  | cons line lines ih =>
    rw [List.any_cons, Bool.or_eq_false_iff] at h
    rw [List.cons_append, headerCalls, headerCalls, h.1, ih h.2]
    simp

end Transfers

open Transfers

namespace GreynetAsyncadaptor

variable {C : Type}

/-- The text is three lines in a fixed order, each with its newline. -/
theorem headers_eq (a : GreynetAsyncadaptor C) : a.headers =
    "status\t" ++ toString a.status ++ "\n" ++ "mime-type\t" ++ a.mimetype ++ "\n" ++
      "content-length\t" ++ toString a.contentlength ++ "\n" := rfl

/-- **The lines `send_headers` writes.**  The mime type may be several of them: its first line
    follows its key, and the others stand by themselves.  The last newline leaves an empty line at
    the end. -/
theorem lines_headers (a : GreynetAsyncadaptor C) : ∃ l ls, splitAt a.mimetype '\n' = l :: ls ∧
    splitAt a.headers '\n' =
      statusLine a.status :: mimeLine l :: ls ++ [lengthLine a.contentlength, ""] := by
  obtain ⟨l, ls, hm, hlead⟩ := splitAt_lead "mime-type\t" a.mimetype (d := '\n') (by decide)
  refine ⟨l, ls, hm, ?_⟩
  have hnum : ∀ (lead : String) (n : Int32), '\n' ∉ lead.toList →
      splitAt (lead ++ toString n) '\n' = [lead ++ toString n] := by
    intro lead n h
    apply splitAt_eq_singleton
    rw [String.toList_append, List.mem_append, not_or]
    exact ⟨h, notMem_toString (Or.inr rfl) n⟩
  have htext : a.headers = ("status\t" ++ toString a.status) ++ "\n" ++
      (("mime-type\t" ++ a.mimetype) ++ "\n" ++
        (("content-length\t" ++ toString a.contentlength) ++ "\n" ++ "")) := by
    simp only [headers_eq, String.append_assoc, String.append_empty]
  rw [htext, splitAt_sep _ _ rfl, splitAt_sep _ _ rfl, splitAt_sep _ _ rfl, hlead,
    hnum _ _ (by decide), hnum _ _ (by decide), splitAt_eq_singleton (by decide : '\n' ∉ "".toList)]
  rfl

/-- **When the headers of an adaptor cancel the transfer they are for**: if the status is not 200,
    or the mime type has lines of its own and one of them says so.  The first of its lines cannot,
    since it follows the key. -/
theorem abortsHeaders_headers (a : GreynetAsyncadaptor C) : abortsHeaders a.headers =
    (decide (a.status ≠ 200) || (splitAt a.mimetype '\n').tail.any statusAborts) := by
  obtain ⟨l, ls, hm, hlines⟩ := a.lines_headers
  have hempty : statusAborts "" = false := by decide
  rw [abortsHeaders, hlines, hm, List.tail_cons, List.any_append, List.any_cons, List.any_cons,
    statusAborts_statusLine, statusAborts_mimeLine, List.any_cons, List.any_cons,
    statusAborts_lengthLine, hempty]
  simp

/-- Headers with another status are read no further: the status is the first line, and it is told to
    the adaptor before the transfer is cancelled. -/
theorem headerCalls_headers_ne {a : GreynetAsyncadaptor C} (h : a.status ≠ 200) :
    headerCalls (splitAt a.headers '\n') = [.setStatusCode a.status, .writeCancel] := by
  obtain ⟨l, ls, -, hlines⟩ := a.lines_headers
  rw [hlines, List.cons_append, headerCalls, lineCall_statusLine, statusAborts_statusLine,
    if_pos (by simpa using h)]
  rfl

/-- **Headers with the status 200**: the status, then what the lines of the mime type are taken for,
    then the content length. -/
theorem headerCalls_headers {a : GreynetAsyncadaptor C} (hstatus : a.status = 200)
    (h : abortsHeaders a.headers = false) : ∃ l ls, splitAt a.mimetype '\n' = l :: ls ∧
      ls.any statusAborts = false ∧
      headerCalls (splitAt a.headers '\n') =
        .setStatusCode 200 :: headerCalls (mimeLine l :: ls) ++
          [.setContentLength a.contentlength] := by
  obtain ⟨l, ls, hm, hlines⟩ := a.lines_headers
  have hls : ls.any statusAborts = false := by
    rw [abortsHeaders_headers, hm, List.tail_cons, Bool.or_eq_false_iff] at h
    exact h.2
  refine ⟨l, ls, hm, hls, ?_⟩
  have hempty : headerCalls [""] = [] := by decide
  have hlast : headerCalls [lengthLine a.contentlength, ""] =
      [.setContentLength a.contentlength] := by
    rw [headerCalls, lineCall_lengthLine, statusAborts_lengthLine, hempty]
    rfl
  rw [hlines, headerCalls_append, hlast, headerCalls, lineCall_statusLine,
    statusAborts_statusLine, hstatus]
  · rfl
  · rw [List.any_cons, List.any_cons, statusAborts_statusLine, statusAborts_mimeLine, hls, hstatus]
    rfl

/-- A mime type that is one part of one line, with no tab and no newline; all that are in use
    are. -/
def Plain (m : String) : Prop := '\t' ∉ m.toList ∧ '\n' ∉ m.toList

instance (m : String) : Decidable (Plain m) := inferInstanceAs (Decidable (_ ∧ _))

/-- With such a mime type the status 200 cancels nothing. -/
theorem abortsHeaders_plain {a : GreynetAsyncadaptor C} (hstatus : a.status = 200)
    (hm : Plain a.mimetype) : abortsHeaders a.headers = false := by
  rw [abortsHeaders_headers, splitAt_eq_singleton hm.2, hstatus]
  rfl

/-- **A plain mime type comes back**: the headers are read as the calls that made them, in the same
    order. -/
theorem headerCalls_plain {a : GreynetAsyncadaptor C} (hstatus : a.status = 200)
    (hm : Plain a.mimetype) : headerCalls (splitAt a.headers '\n') =
      [.setStatusCode 200, .setMimeType a.mimetype, .setContentLength a.contentlength] := by
  obtain ⟨l, ls, hsplit, -, hcalls⟩ := headerCalls_headers hstatus (abortsHeaders_plain hstatus hm)
  rw [splitAt_eq_singleton hm.2] at hsplit
  obtain ⟨rfl, rfl⟩ := List.cons.inj hsplit
  rw [hcalls, headerCalls, lineCall_mimeLine, if_neg hm.1, statusAborts_mimeLine]
  rfl

end GreynetAsyncadaptor

end Greynet
