import FileDepot.Fault
import FileDepot.Proofs.Outcome

/-!
# Trouble with encodings

An encoding of text fails with nothing but what a text or some bytes are at fault for: text that has no
bytes, or bytes that stand for no text. Only encodings that are none of text refuse whatever they are given
(`Decoder.feed_fails`, `Encoder.feed_fails`).
-/

namespace FileDepot.Encoding

open Outcome

/-- Whether a fault lies in a text or in some bytes. -/
def Fault.IsUnicode (f : Fault) : Prop := (FileDepot.Fault.codingFamily f).isUnicode = true

/-! ## Decoding -/

/-- Repeating a scan over some bytes fails at those that stand for no text. -/
theorem run_fails {μ : Type} (codec : String) (scan : μ → Bytes → Scan μ) (mode : μ)
    (extra place : Nat) (out : List (List Point)) (data : Bytes) :
    FailsOnly Fault.IsUnicode (run codec scan mode extra place out data).1 := by
  induction data generalizing mode extra place out with
  | nil => exact failsOnly_ok _
  | cons b rest ih =>
    cases extra with
    | succ extra =>
      rw [run]
      exact ih mode extra (place + 1) out
    | zero =>
      rw [run]
      cases scan mode (b :: rest) with
      | text s extra mode => exact ih mode extra (place + 1) (s :: out)
      | bad size reason => exact failsOnly_error rfl
      | hold => exact failsOnly_ok _

namespace Punycode

theorem readNumber_fails (bias weight unit n : Nat) (s : List Char) :
    FailsOnly Fault.IsUnicode (readNumber bias weight unit n s) := by
  induction s generalizing weight unit n with
  | nil => exact failsOnly_error rfl
  | cons c rest ih =>
    rw [readNumber]
    cases value? c with
    | none => exact failsOnly_error rfl
    | some d =>
      dsimp only
      split
      · exact failsOnly_ok _
      · rename_i hlarge
        have hrest := ih (weight + 36) (unit * (36 - threshold bias weight)) (n + d * unit)
        split
        · exact failsOnly_ok _
        · rename_i f hf
          exact failsOnly_error (hrest f hf)

theorem insertAll_fails (there : List Point) (count next least bias : Nat) (first : Bool)
    (s : List Char) : FailsOnly Fault.IsUnicode (insertAll there count next least bias first s) := by
  fun_induction insertAll there count next least bias first s with
  | case1 => exact failsOnly_ok _
  | case2 there count next least bias first s hs f hf =>
    exact failsOnly_error (readNumber_fails _ _ _ _ _ f hf)
  | case3 => exact failsOnly_error rfl
  | case4 there count next least bias first s hs delta rest hrest hread n hn spot ih => exact ih

theorem readAscii_fails (data : Bytes) : FailsOnly Fault.IsUnicode (readAscii data) := by
  rw [readAscii]
  split
  · exact failsOnly_error rfl
  · exact failsOnly_ok _

theorem decode_fails (data : Bytes) : FailsOnly Fault.IsUnicode (decode data) :=
  (readAscii_fails _).bind fun _ => (readAscii_fails _).bind fun _ => insertAll_fails _ _ _ _ _ _ _

end Punycode

namespace HostLabel

theorem sized_fails (label : List Char) : FailsOnly Fault.IsUnicode (sized label) := by
  rw [sized]
  split
  · exact failsOnly_ok _
  · exact failsOnly_error rfl

theorem prepare_fails (name : List Point) : FailsOnly Fault.IsUnicode (Nameprep.prepare name) := by
  rw [Nameprep.prepare]
  split
  · exact failsOnly_error rfl
  · rw [Nameprep.checkDirections]
    split
    · exact failsOnly_ok _
    · split
      · exact failsOnly_error rfl
      · split
        · exact failsOnly_error rfl
        · exact failsOnly_ok _

theorem write_fails (label : List Point) : FailsOnly Fault.IsUnicode (write label) := by
  rw [write]
  split
  · exact sized_fails _
  · refine (prepare_fails label).bind fun name => ?_
    split
    · exact sized_fails _
    · split
      · exact failsOnly_error rfl
      · exact sized_fails _

theorem read_fails (s : List Char) : FailsOnly Fault.IsUnicode (read s) := by
  rw [read]
  split
  · exact failsOnly_ok _
  · refine FailsOnly.bind ((Punycode.decode_fails _).mapError fun f hf => ?_) fun label =>
      (write_fails label).bind fun again => ?_
    · cases f with
      | other reason => rfl
      | _ => exact hf
    · split
      · exact failsOnly_error rfl
      · exact failsOnly_ok _

theorem feed_fails (text : List Point) (final : Bool) :
    FailsOnly Fault.IsUnicode (feed text final) := by
  rw [feed]
  split
  · exact failsOnly_ok _
  · exact (failsOnly_mapM write_fails _).bind fun _ => failsOnly_ok _

theorem unfeed_fails (data : Bytes) (final : Bool) :
    FailsOnly Fault.IsUnicode (unfeed data final) := by
  rw [unfeed]
  split
  · exact failsOnly_ok _
  · exact (Punycode.readAscii_fails data).bind fun s =>
      (failsOnly_mapM read_fails _).bind fun _ => failsOnly_ok _

end HostLabel

namespace Decoder

variable {d : Decoder} {codec : Codec}

/-- A decoder of an encoding. -/
def Of (codec : Codec) (d : Decoder) : Prop := d.codec = codec

theorem of_codec (d : Decoder) : d.Of d.codec := rfl

theorem finish_steady (hd : d.Of codec) {result : Except Fault (List Point × Bytes)}
    (h : FailsOnly Fault.IsUnicode result) : Steady Fault.IsUnicode (Of codec) (d.finish result) := by
  cases result with
  | ok found => exact steady_ok _ hd
  | error f => exact steady_error (h f rfl) hd

theorem plainly_steady (hd : d.Of codec) (name : String) (scan : PlainScan) (data : Bytes) :
    Steady Fault.IsUnicode (Of codec) (d.plainly name scan data) :=
  finish_steady hd (run_fails _ _ _ _ _ _ _)

theorem feedMarked_steady (hd : d.Of codec) (family : String) (size : Nat) (mark : ByteOrder → Bytes)
    (scan : ByteOrder → PlainScan) (data : Bytes) :
    Steady Fault.IsUnicode (Of codec) (d.feedMarked family size mark scan data) := by
  rw [feedMarked]
  split
  · exact plainly_steady hd _ _ _
  · dsimp only
    split
    · split
      · exact steady_ok _ hd
      · rename_i f hf
        exact steady_error (run_fails _ _ _ _ _ _ _ f hf) hd
    · split
      · split
        · exact steady_error rfl hd
        · exact steady_ok _ hd
      · rename_i f hf
        exact steady_error (run_fails _ _ _ _ _ _ _ f hf) hd

theorem moded_steady (hd : d.Of codec) (name : String) (scan : Shift → Bytes → Scan Shift)
    (data : Bytes) : Steady Fault.IsUnicode (Of codec) (d.moded name scan data) := by
  have hrun := run_fails name scan d.mode 0 0 [] data
  rw [moded]
  split
  · split
    · exact steady_error rfl hd
    · exact steady_ok _ hd
  · rename_i f mode hf
    rw [hf] at hrun
    exact steady_error (hrun f rfl) hd

/-- **Decoding.** A decoder of an encoding of text fails at bytes that stand for no text, and stays one of that
encoding. -/
theorem feed_steady (hd : d.Of codec) (htext : codec.isText = true) (piece : Bytes) (final : Bool) :
    Steady Fault.IsUnicode (Of codec) (d.feed piece final) := by
  obtain ⟨c, held, order, begun, mode⟩ := d
  have hc : c = codec := hd
  subst hc
  rw [feed]
  cases c with
  | utf8Marked =>
    dsimp only
    split
    · exact plainly_steady hd _ _ _
    · split
      · exact steady_ok _ rfl
      · split
        · exact plainly_steady (d := ⟨_, _, _, true, _⟩) rfl _ _ _
        · exact plainly_steady (d := ⟨_, _, _, true, _⟩) rfl _ _ _
  | utf16 order =>
    cases order with
    | none => exact feedMarked_steady hd _ _ _ _ _
    | some order => exact plainly_steady hd _ _ _
  | utf32 order =>
    cases order with
    | none => exact feedMarked_steady hd _ _ _ _ _
    | some order => exact plainly_steady hd _ _ _
  | escaped raw => cases raw <;> exact plainly_steady hd _ _ _
  | punycode => exact ⟨Punycode.decode_fails _, rfl⟩
  | hostName => exact finish_steady hd (HostLabel.unfeed_fails _ _)
  | wide w => exact moded_steady hd _ _ _
  | iso2022 e => exact moded_steady hd _ _ _
  | tilde => exact moded_steady hd _ _ _
  | transform t => cases htext
  | undefined => exact steady_error rfl rfl
  | _ => exact plainly_steady hd _ _ _

end Decoder

/-! ## Encoding -/

theorem encodeEach_fails (name reason : String) (together : Bool) (bytes? : Point → Option Bytes)
    (s : List Point) : FailsOnly Fault.IsUnicode (encodeEach name reason together bytes? s) := by
  rw [encodeEach]
  split
  · exact failsOnly_ok _
  · exact failsOnly_error rfl

theorem writeRun_fails {μ : Type} (name : String) (pen : Pen μ) (final : Bool) (mode : μ)
    (place : Nat) (out : List Bytes) (s : List Point) :
    FailsOnly Fault.IsUnicode (writeRun name pen final mode place out s).1 := by
  fun_induction writeRun name pen final mode place out s with
  | case1 => exact failsOnly_ok _
  | case2 => exact failsOnly_error rfl
  | case3 => exact failsOnly_ok _
  | case4 => exact failsOnly_error rfl
  | case5 => assumption
  | case6 => assumption

namespace Encoder

variable {e : Encoder} {codec : Codec}

/-- An encoder of an encoding. -/
def Of (codec : Codec) (e : Encoder) : Prop := e.codec = codec

theorem of_codec (e : Encoder) : e.Of e.codec := rfl

theorem marked_steady (he : e.Of codec) (mark : Bytes) {first later : Except Fault Bytes}
    (hfirst : FailsOnly Fault.IsUnicode first) (hlater : FailsOnly Fault.IsUnicode later) :
    Steady Fault.IsUnicode (Of codec) (e.marked mark first later) := by
  unfold marked
  split
  · exact ⟨hlater, he⟩
  · cases first with
    | ok data => exact steady_ok _ he
    | error f => exact steady_error (hfirst f rfl) he

theorem moded_steady (he : e.Of codec) (name : String) (pen : Pen Shift)
    (finish : Shift → Bytes × Shift) (s : List Point) (final : Bool) :
    Steady Fault.IsUnicode (Of codec) (e.moded name pen finish s final) := by
  have hrun := writeRun_fails name pen final e.mode 0 [] (e.held ++ s)
  rw [moded]
  split
  · rename_i f mode hf
    rw [hf] at hrun
    exact steady_error (hrun f rfl) he
  · exact steady_ok _ he

/-- **Encoding.** An encoder of an encoding of text fails at text that has no bytes, and stays one of that
encoding. -/
theorem feed_steady (he : e.Of codec) (htext : codec.isText = true) (s : List Point) (final : Bool) :
    Steady Fault.IsUnicode (Of codec) (e.feed s final) := by
  obtain ⟨c, begun, held, mode⟩ := e
  have hc : c = codec := he
  subst hc
  rw [feed]
  cases c with
  | utf8Marked => exact ⟨(encodeEach_fails _ _ _ _ _).map _, rfl⟩
  | utf16 order =>
    cases order with
    | none => exact marked_steady he _ (encodeEach_fails _ _ _ _ _) (encodeEach_fails _ _ _ _ _)
    | some order => exact ⟨encodeEach_fails _ _ _ _ _, rfl⟩
  | utf32 order =>
    cases order with
    | none => exact marked_steady he _ (encodeEach_fails _ _ _ _ _) (encodeEach_fails _ _ _ _ _)
    | some order => exact ⟨encodeEach_fails _ _ _ _ _, rfl⟩
  | hostName =>
    have hlabels := HostLabel.feed_fails (held ++ s) final
    dsimp only
    cases hfeed : HostLabel.feed (held ++ s) final with
    | ok found => exact steady_ok _ rfl
    | error f => exact steady_error (hlabels f hfeed) rfl
  | wide w => exact moded_steady he _ _ _ _ _
  | iso2022 i => exact moded_steady he _ _ _ _ _
  | tilde => exact moded_steady he _ _ _ _ _
  | transform t => cases htext
  | undefined => exact steady_error rfl rfl
  | utf7 => exact steady_ok _ rfl
  | escaped raw => exact steady_ok _ rfl
  | punycode => exact steady_ok _ rfl
  | _ => exact ⟨encodeEach_fails _ _ _ _ _, rfl⟩

end Encoder

end FileDepot.Encoding
