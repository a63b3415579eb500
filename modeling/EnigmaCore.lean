import EnigmaCore.Rust
import EnigmaCore.Ipc.Messages
import EnigmaCore.Ipc.Handling
import EnigmaCore.Ipc.Batch
import EnigmaCore.Ipc.Store
import EnigmaCore.EpochKeeper.Ecalls
import EnigmaCore.EpochKeeper.Spec
import EnigmaCore.EpochKeeper.Register
import EnigmaCore.EpochKeeper.Outcomes
import EnigmaCore.Wasm.Deploy
import EnigmaCore.EpochKeeper.WorkerParams
import EnigmaCore.Ipc.Listener
import EnigmaCore.Ipc.ReadBack
