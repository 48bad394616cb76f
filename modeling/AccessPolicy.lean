import AccessPolicy.Main
import AccessPolicy.Proofs.Evaluation.AccountRoot
import AccessPolicy.Proofs.Evaluation.ActionCase
import AccessPolicy.Proofs.Evaluation.Concatenation
import AccessPolicy.Proofs.Evaluation.Noninterference
import AccessPolicy.Proofs.Evaluation.Permutation
import AccessPolicy.Proofs.Evaluation.PrincipalView
import AccessPolicy.Proofs.Evaluation.Rewording
import AccessPolicy.Proofs.Evaluation.Tightening
import AccessPolicy.Proofs.Policy.Image
import AccessPolicy.Proofs.Policy.Rejection
import AccessPolicy.Proofs.Evaluation.Trail
import AccessPolicy.Proofs.Evaluation.SingleSid
import AccessPolicy.Proofs.Evaluation.FailureLocation
import AccessPolicy.Proofs.Glob.Shortcut
import AccessPolicy.Proofs.Arn.LetterCase
import AccessPolicy.Proofs.Context.Tree
import AccessPolicy.Proofs.Config
import AccessPolicy.Proofs.Disk
import AccessPolicy.Proofs.CommandLine.Usage
import AccessPolicy.Proofs.CommandLine.Ending
import AccessPolicy.Proofs.CommandLine.ExitCode
import AccessPolicy.Proofs.CommandLine.Decision
import AccessPolicy.Proofs.Condition.DateForms
import AccessPolicy.Proofs.Condition.KeyLanguage
import AccessPolicy.Proofs.Net.Address
import AccessPolicy.Proofs.Net.Network
import AccessPolicy.Proofs.Condition.AddressBlock
import AccessPolicy.Proofs.Base64
import AccessPolicy.Proofs.Condition.BinaryValue
import AccessPolicy.Proofs.Condition.SelfMatch
import AccessPolicy.Proofs.CommandLine.LogText
import AccessPolicy.Proofs.Policy.Hints
