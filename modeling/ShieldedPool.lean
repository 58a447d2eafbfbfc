import ShieldedPool.Amount
import ShieldedPool.Base58
import ShieldedPool.Bytes
import ShieldedPool.Cipher.Aead
import ShieldedPool.Cipher.ChaCha20
import ShieldedPool.Cipher.Poly1305
import ShieldedPool.Codec
import ShieldedPool.Config
import ShieldedPool.Curve.Bls12381.Encoding
import ShieldedPool.Curve.Bls12381.Field
import ShieldedPool.Curve.Bls12381.Pairing
import ShieldedPool.Curve.Point
import ShieldedPool.Curve.Residue
import ShieldedPool.Curve.X25519
import ShieldedPool.Diagnostic
import ShieldedPool.Entropy
import ShieldedPool.HSig
import ShieldedPool.Hash.Blake2b
import ShieldedPool.Hash.Sha256
import ShieldedPool.JoinSplit
import ShieldedPool.Json.Reader
import ShieldedPool.Json.Records
import ShieldedPool.Json.Value
import ShieldedPool.Key
import ShieldedPool.KeyText
import ShieldedPool.Network
import ShieldedPool.Note.Basic
import ShieldedPool.Note.Encryption
import ShieldedPool.Note.Memo
import ShieldedPool.Note.Plaintext
import ShieldedPool.Prf
import ShieldedPool.Proving
import ShieldedPool.Statement
import ShieldedPool.System.Basic
import ShieldedPool.System.Groth16.Basic
import ShieldedPool.System.Groth16.Load
import ShieldedPool.System.Groth16.Packing
import ShieldedPool.System.Groth16.Parameters
import ShieldedPool.System.Keyed
import ShieldedPool.Text.Padded
import ShieldedPool.Text.Path
import ShieldedPool.Text.Quoted
import ShieldedPool.Text.Unshown
import ShieldedPool.Tree.Complete
import ShieldedPool.Tree.Frontier
import ShieldedPool.Tree.Log
import ShieldedPool.Tree.Node
import ShieldedPool.Tree.Witness
import ShieldedPool.Proofs.Collision
import ShieldedPool.Proofs.Tree.Complete
import ShieldedPool.Proofs.Tree.Frontier
import ShieldedPool.Proofs.Tree.Path
import ShieldedPool.Proofs.Tree.Log
import ShieldedPool.Proofs.Balance
import ShieldedPool.Proofs.Relation
import ShieldedPool.Proofs.Proving
import ShieldedPool.Proofs.Codec
import ShieldedPool.Proofs.Encryption
import ShieldedPool.Proofs.Delivery
import ShieldedPool.Proofs.Binding
import ShieldedPool.Proofs.Malleability
import ShieldedPool.Proofs.Description
import ShieldedPool.Proofs.Numbering
import ShieldedPool.Proofs.Base58
import ShieldedPool.Proofs.KeyText
import ShieldedPool.Proofs.Seeds
import ShieldedPool.Proofs.Randomness
import ShieldedPool.Proofs.Tree.Extension
import ShieldedPool.Proofs.Tree.Contents
import ShieldedPool.Proofs.DomainSeparation
import ShieldedPool.Proofs.Packing
import ShieldedPool.Proofs.Sums
import ShieldedPool.Proofs.SignatureHash
import ShieldedPool.Proofs.Flags
import ShieldedPool.Proofs.Tree.PathBytes
import ShieldedPool.Proofs.Plaintext
import ShieldedPool.Proofs.LeadingCharacters
import ShieldedPool.Proofs.KeySpelling
import ShieldedPool.Proofs.Tree.Siblings
