import Orthography.Dictionary.Stems
import Orthography.Proofs.Affix.Entries

/-!
# Writing stem lists

An entry is written as its stem, with its codes behind a slash, and with its variants between two
slashes.  The line that counts the entries is passed over even if the stem below it is a number, a
stem keeps its inner blanks, and codes that stand side by side are split again.  So a stem list that
can be written is read back entry by entry (`Dictionary.read_written`).
-/

namespace Orthography

open Character (isBlank)

/-! ### Trimming -/

namespace Text

variable {text : Text}

/-- A text that does not start with a blank has none to trim there. -/
theorem trimStart_eq_self (hhead : ∀ c ∈ text.head?, isBlank c = false) :
    trimStart text = text := by
  cases text with
  | nil => rfl
  | cons c text => exact List.dropWhile_cons_of_neg (by simp [hhead c rfl])

/-- A text that does not end with a blank has none to trim there. -/
theorem trimEnd_eq_self (hlast : ∀ c ∈ text.getLast?, isBlank c = false) : trimEnd text = text := by
  have hreverse : trimStart text.reverse = text.reverse :=
    trimStart_eq_self fun c hc => hlast c (by rwa [List.head?_reverse] at hc)
  rw [trimEnd, ← trimStart, hreverse, List.reverse_reverse]

/-- A text without blanks at its ends has none to trim. -/
theorem trim_eq_self (hhead : ∀ c ∈ text.head?, isBlank c = false)
    (hlast : ∀ c ∈ text.getLast?, isBlank c = false) : trim text = text := by
  rw [trim, trimStart_eq_self hhead, trimEnd_eq_self hlast]

end Text

/-! ### Entries -/

namespace Entry

/-- The fields of the line of an entry: its stem alone, with its codes, or with its variants and
codes. -/
def fields (entry : Entry) : List Text :=
  match entry.variants, entry.codes with
  | [], [] => [entry.stem]
  | [], codes => [entry.stem, codes.flatten]
  | variants, codes => [entry.stem, Text.row variants, codes.flatten]

/-- The line of an entry, its fields with slashes between them. -/
def written (entry : Entry) : Text := ['/'].intercalate entry.fields

/-- An entry that can be written: its stem is not empty, has neither slashes nor line feeds nor
blanks at its ends, and does not start a comment; its variants and codes have neither blanks nor
slashes, no variant is empty, and the codes can be told apart. -/
structure Writable (entry : Entry) : Prop where
  stem_ne_nil : entry.stem ≠ []
  uncut : '/' ∉ entry.stem ∧ '\n' ∉ entry.stem
  head : ∀ c ∈ entry.stem.head?, isBlank c = false ∧ c ≠ '#'
  last : ∀ c ∈ entry.stem.getLast?, isBlank c = false
  variants : ∀ variant ∈ entry.variants, variant ≠ [] ∧ ∀ c ∈ variant, isBlank c = false ∧ c ≠ '/'
  codes : ∀ code ∈ entry.codes, ∀ c ∈ code, isBlank c = false ∧ c ≠ '/'
  separable : Code.Separable entry.codes

variable {entry : Entry}

/-- Whether each character of a text is neither a blank nor a slash is found out by looking at all of
them. -/
theorem all_solid_iff {text : Text} :
    text.all (fun c => !isBlank c && c != '/') = true ↔ ∀ c ∈ text, isBlank c = false ∧ c ≠ '/' := by
  simp

instance : DecidablePred Writable := fun entry =>
  decidable_of_iff
    (entry.stem ≠ [] ∧ ('/' ∉ entry.stem ∧ '\n' ∉ entry.stem) ∧
      entry.stem.head?.all (fun c => !isBlank c && c != '#') = true ∧
      entry.stem.getLast?.all (!isBlank ·) = true ∧
      (∀ variant ∈ entry.variants,
        variant ≠ [] ∧ variant.all (fun c => !isBlank c && c != '/') = true) ∧
      (∀ code ∈ entry.codes, code.all (fun c => !isBlank c && c != '/') = true) ∧
      Code.Separable entry.codes)
    ⟨fun ⟨hsome, huncut, hhead, hlast, hvariants, hcodes, hseparable⟩ =>
        ⟨hsome, huncut, by simpa [Option.all_eq_true] using hhead,
          by simpa [Option.all_eq_true] using hlast,
          fun variant hvariant =>
            ⟨(hvariants variant hvariant).1, all_solid_iff.mp (hvariants variant hvariant).2⟩,
          fun code hcode => all_solid_iff.mp (hcodes code hcode), hseparable⟩,
      fun h =>
        ⟨h.stem_ne_nil, h.uncut, by simpa [Option.all_eq_true] using h.head,
          by simpa [Option.all_eq_true] using h.last,
          fun variant hvariant =>
            ⟨(h.variants variant hvariant).1, all_solid_iff.mpr (h.variants variant hvariant).2⟩,
          fun code hcode => all_solid_iff.mpr (h.codes code hcode), h.separable⟩⟩

namespace Writable

/-- The codes of an entry side by side have neither blanks nor slashes. -/
theorem flatten_codes (hentry : entry.Writable) :
    ∀ c ∈ entry.codes.flatten, isBlank c = false ∧ c ≠ '/' := by
  intro c hc
  obtain ⟨code, hcode, hc⟩ := List.mem_flatten.mp hc
  exact hentry.codes code hcode c hc

/-- The variants of an entry in a row have no slashes, and no blanks but those between them. -/
theorem row_variants (hentry : entry.Writable) :
    ∀ c ∈ Text.row entry.variants, c = ' ' ∨ isBlank c = false ∧ c ≠ '/' :=
  Text.eq_or_of_mem_intercalate fun variant hvariant => (hentry.variants variant hvariant).2

/-- No field holds a slash or a line feed. -/
theorem fields_uncut (hentry : entry.Writable) :
    ∀ field ∈ entry.fields, ∀ c ∈ field, c ≠ '/' ∧ c ≠ '\n' := by
  have hsolid {c : Char} (hc : isBlank c = false ∧ c ≠ '/') : c ≠ '/' ∧ c ≠ '\n' :=
    ⟨hc.2, by rintro rfl; exact absurd hc.1 (by decide)⟩
  have hstem : ∀ c ∈ entry.stem, c ≠ '/' ∧ c ≠ '\n' := fun c hc =>
    ⟨ne_of_mem_of_not_mem hc hentry.uncut.1, ne_of_mem_of_not_mem hc hentry.uncut.2⟩
  have hcodes : ∀ c ∈ entry.codes.flatten, c ≠ '/' ∧ c ≠ '\n' := fun c hc =>
    hsolid (hentry.flatten_codes c hc)
  have hvariants : ∀ c ∈ Text.row entry.variants, c ≠ '/' ∧ c ≠ '\n' := by
    intro c hc
    rcases hentry.row_variants c hc with rfl | hc
    · decide
    · exact hsolid hc
  unfold fields
  split
  · exact List.forall_mem_singleton.mpr hstem
  · exact List.forall_mem_cons.mpr ⟨hstem, List.forall_mem_singleton.mpr hcodes⟩
  · exact List.forall_mem_cons.mpr ⟨hstem, List.forall_mem_cons.mpr
      ⟨hvariants, List.forall_mem_singleton.mpr hcodes⟩⟩

/-- The line of an entry is cut into its fields. -/
theorem splitOn_written (hentry : entry.Writable) :
    entry.written.splitOn '/' = entry.fields := by
  have hsome : entry.fields ≠ [] := by
    unfold fields
    split <;> exact List.cons_ne_nil _ _
  exact List.splitOn_intercalate '/'
    (fun field hfield hslash => (hentry.fields_uncut field hfield '/' hslash).1 rfl) hsome

/-- The fields of an entry are read as the entry. -/
theorem ofColumns?_eq (hentry : entry.Writable) :
    ofColumns? entry.stem (Text.row entry.variants) entry.codes.flatten = some entry := by
  have htrim : Text.trim entry.stem = entry.stem :=
    Text.trim_eq_self (fun c hc => (hentry.head c hc).1) hentry.last
  have hvariants : Text.columns (Text.row entry.variants) = entry.variants :=
    Text.columns_row fun variant hvariant =>
      ⟨(hentry.variants variant hvariant).1, fun c hc =>
        ((hentry.variants variant hvariant).2 c hc).1⟩
  have hcodes : (Text.columns entry.codes.flatten).headD [] = entry.codes.flatten := by
    by_cases hnone : entry.codes.flatten = []
    · rw [hnone]
      rfl
    · have hcolumns : Text.columns (Text.row [entry.codes.flatten]) = [entry.codes.flatten] :=
        Text.columns_row (List.forall_mem_singleton.mpr
          ⟨hnone, fun c hc => (hentry.flatten_codes c hc).1⟩)
      rw [Text.row_singleton] at hcolumns
      rw [hcolumns]
      rfl
  rw [ofColumns?, htrim, hvariants, hcodes, Code.split_flatten hentry.separable]
  exact if_neg (by simpa using hentry.stem_ne_nil)

/-- The line of an entry is read as the entry. -/
theorem read?_written (hentry : entry.Writable) : read? entry.written = some entry := by
  have hcolumns := hentry.ofColumns?_eq
  rw [read?, hentry.splitOn_written]
  obtain ⟨stem, variants, codes⟩ := entry
  cases variants with
  | nil => cases codes <;> exact hcolumns
  | cons first others => exact hcolumns

/-- A line starts with the stem. -/
theorem head?_written (hentry : entry.Writable) : entry.written.head? = entry.stem.head? := by
  obtain ⟨others, hfields⟩ : ∃ others, entry.fields = entry.stem :: others := by
    unfold fields
    split <;> exact ⟨_, rfl⟩
  rw [written, hfields]
  cases others with
  | nil => rw [List.intercalate_singleton]
  | cons second others =>
      rw [List.intercalate_cons_cons, List.append_assoc,
        List.head?_append_of_ne_nil _ hentry.stem_ne_nil]

/-- No line is empty. -/
theorem written_ne_nil (hentry : entry.Writable) : entry.written ≠ [] := by
  intro hnone
  have hhead := hentry.head?_written
  rw [hnone, List.head?_nil, eq_comm, List.head?_eq_none_iff] at hhead
  exact hentry.stem_ne_nil hhead

/-- No line holds a line feed. -/
theorem not_mem_written (hentry : entry.Writable) : '\n' ∉ entry.written := by
  have hline : ∀ c ∈ entry.written, c = '/' ∨ c ≠ '/' ∧ c ≠ '\n' :=
    Text.eq_or_of_mem_intercalate hentry.fields_uncut
  exact fun hfeed => (hline '\n' hfeed).elim (by decide) fun hother => hother.2 rfl

/-- No line ends with a blank. -/
theorem getLast?_written (hentry : entry.Writable) :
    ∀ c ∈ entry.written.getLast?, isBlank c = false := by
  have hends : entry.written = entry.stem ∨
      ∃ front, entry.written = front ++ '/' :: entry.codes.flatten := by
    unfold written fields
    split
    · exact .inl List.intercalate_singleton
    · exact .inr ⟨entry.stem, by simp⟩
    · exact .inr ⟨entry.stem ++ '/' :: Text.row entry.variants, by simp⟩
  rcases hends with hends | ⟨front, hends⟩
  · rw [hends]
    exact hentry.last
  · intro c hc
    rw [hends, List.getLast?_append_of_ne_nil _ (List.cons_ne_nil _ _)] at hc
    rcases List.mem_cons.mp (List.mem_of_getLast? hc) with rfl | hc
    · decide
    · exact (hentry.flatten_codes c hc).1

end Writable

end Entry

/-! ### Stem lists -/

namespace Dictionary

/-- The lines of a stem list: the number of its entries and a line for each of them. -/
def lines (dictionary : Dictionary) : List Text :=
  Text.numeral dictionary.entries.length :: dictionary.entries.map (·.written)

/-- The text of a stem list. -/
def written (dictionary : Dictionary) : Text := Text.ofLines dictionary.lines

/-- The number of entries is passed over in the first line. -/
theorem value_readNumbered_numeral (count : Nat) :
    (readNumbered (Text.numeral count, 1)).value = none := by
  have hsolid : ∀ c ∈ Text.numeral count, isBlank c = false := fun c hc =>
    Text.isBlank_of_isDigit (Text.isDigit_of_mem_numeral hc)
  have hcount : isCount (Text.numeral count) = true := by
    rw [isCount, Text.trim_eq_self (fun c hc => hsolid c (List.mem_of_mem_head? hc))
      (fun c hc => hsolid c (List.mem_of_getLast? hc)), Text.natural?_numeral]
    rfl
  simp [readNumbered, hcount]

/-- The line of an entry is read as the entry, wherever it stands but in the first line. -/
theorem value_readNumbered_written {entry : Entry} (hentry : entry.Writable) {number : Nat}
    (hnumber : number ≠ 1) : (readNumbered (entry.written, number)).value = some entry := by
  obtain ⟨first, others, hstem⟩ := List.exists_cons_of_ne_nil hentry.stem_ne_nil
  have hstart : entry.written.head? = some first := by
    rw [hentry.head?_written, hstem]
    rfl
  obtain ⟨hsolid, hmark⟩ := hentry.head first (by rw [hstem]; rfl)
  have htab : first ≠ '\t' := by
    rintro rfl
    exact absurd hsolid (by decide)
  have hcomment : isComment entry.written = false := by
    simp [isComment, hstart, hmark, htab]
  have hsome : entry.written.isEmpty = false := List.isEmpty_eq_false_iff.mpr hentry.written_ne_nil
  simp only [readNumbered, Text.trimEnd_eq_self hentry.getLast?_written, beq_eq_false_iff_ne.mpr
    hnumber, hcomment, hsome, hentry.read?_written]
  rfl

/-- The lines of entries are read as the entries, in order, behind the first line. -/
theorem value_gather_written {entries : List Entry} (hentries : ∀ entry ∈ entries, entry.Writable)
    {number : Nat} (hnumber : 1 < number) :
    (Logged.gather (((entries.map (·.written)).zipIdx number).map readNumbered)).value =
      entries := by
  induction entries generalizing number with
  | nil => rfl
  | cons entry entries ih =>
      obtain ⟨hentry, hrest⟩ := List.forall_mem_cons.mp hentries
      have hread := ih hrest (Nat.lt_succ_of_lt hnumber)
      rw [Logged.value_gather] at hread ⊢
      rw [List.map_cons, List.zipIdx_cons, List.map_cons,
        List.filterMap_cons_some (value_readNumbered_written hentry hnumber.ne'), hread]

variable {dictionary : Dictionary}

/-- A text that has the lines of a stem list, and no byte order mark, is read as the stem list. -/
theorem value_read_of_lines (hentries : ∀ entry ∈ dictionary.entries, entry.Writable) {text : Text}
    (hmark : text.head? ≠ some Text.byteOrderMark) (hlines : Text.lines text = dictionary.lines) :
    (read text).value = dictionary := by
  rw [read, Logged.value_map, Text.dropMark_of_head? hmark, hlines, lines, List.zipIdx_cons,
    List.map_cons, Logged.value_gather,
    List.filterMap_cons_none (value_readNumbered_numeral dictionary.entries.length),
    ← Logged.value_gather, value_gather_written hentries (Nat.lt_succ_self 1)]

/-- A stem list is written with a digit in front. -/
theorem head?_written (dictionary : Dictionary) :
    dictionary.written.head? ≠ some Text.byteOrderMark := by
  have hhead : dictionary.written.head? = (Text.numeral dictionary.entries.length).head? := by
    rw [written, lines, Text.ofLines, List.flatMap_cons, List.append_assoc,
      List.head?_append_of_ne_nil _ (Text.numeral_ne_nil _)]
  rw [hhead]
  intro hmark
  exact absurd (Text.isDigit_of_mem_numeral (List.mem_of_mem_head? hmark)) (by decide)

/-- No line of a stem list is cut, nor is it empty. -/
theorem lines_uncut (hentries : ∀ entry ∈ dictionary.entries, entry.Writable) :
    ∀ line ∈ dictionary.lines, ('\n' ∉ line ∧ line.getLast? ≠ some '\r') ∧ line ≠ [] := by
  refine List.forall_mem_cons.mpr ⟨⟨⟨fun hfeed => ?_, fun hback => ?_⟩, Text.numeral_ne_nil _⟩,
    List.forall_mem_map.mpr fun entry hentry => ?_⟩
  · exact absurd (Text.isDigit_of_mem_numeral hfeed) (by decide)
  · exact absurd (Text.isDigit_of_mem_numeral (List.mem_of_getLast? hback)) (by decide)
  · have hwritable := hentries entry hentry
    exact ⟨⟨hwritable.not_mem_written, fun hback =>
      absurd (hwritable.getLast?_written '\r' hback) (by decide)⟩, hwritable.written_ne_nil⟩

/-- A stem list whose entries can be written is read back from its text, whether or not the last
line has its line feed. -/
theorem read_written (hentries : ∀ entry ∈ dictionary.entries, entry.Writable) :
    (read dictionary.written).value = dictionary ∧
      ∀ text, text ++ ['\n'] = dictionary.written → (read text).value = dictionary := by
  have huncut := lines_uncut hentries
  refine ⟨value_read_of_lines hentries (head?_written dictionary)
    (Text.lines_ofLines fun line hline => (huncut line hline).1), fun text htext => ?_⟩
  obtain ⟨others, last, hlines⟩ : ∃ others last, dictionary.lines = others ++ [last] :=
    ⟨_, _, (List.dropLast_append_getLast (List.cons_ne_nil _ _)).symm⟩
  rw [hlines, List.forall_mem_append, List.forall_mem_singleton] at huncut
  obtain ⟨hothers, ⟨hfeed, -⟩, hsome⟩ := huncut
  have hshort : text = Text.ofLines others ++ last := by
    have hlong : text ++ ['\n'] = Text.ofLines others ++ last ++ ['\n'] := by
      rw [htext, written, hlines]
      simp [Text.ofLines]
    exact List.append_cancel_right hlong
  have hmark : text.head? ≠ some Text.byteOrderMark := by
    intro hmark
    refine head?_written dictionary ?_
    rw [← htext, List.head?_append, hmark]
    rfl
  refine value_read_of_lines hentries hmark ?_
  rw [hshort, hlines, Text.lines_ofLines_append (fun line hline => (hothers line hline).1) hfeed
    hsome]

/-- A stem list with an inner blank, a stem that is a number, variants without codes and a short last
code is read back. -/
theorem read_written_mixed :
    let entries : List Entry :=
      [⟨"New York".toList, [], []⟩, ⟨"42".toList, [], []⟩,
        ⟨"mouse".toList, ["mice".toList, "#m".toList], []⟩,
        ⟨"go".toList, ["went".toList], ["P1".toList, "é".toList]⟩,
        ⟨"cat".toList, [], ["BS".toList]⟩]
    (∀ entry ∈ entries, entry.Writable) ∧
      (mk entries).written = "5\nNew York\n42\nmouse/mice #m/\ngo/went/P1é\ncat/BS\n".toList ∧
      (read (mk entries).written).value = ⟨entries⟩ := by
  intro entries
  have hentries : ∀ entry ∈ entries, entry.Writable := by decide +kernel
  exact ⟨hentries, by decide +kernel, (read_written hentries).1⟩

end Dictionary

end Orthography
