/-!
# States behind phrases in plain source

Each number is a list of pairs of twenty-four bits: the lower eight are a phrase, the others the state
that it leads to.
-/

namespace UiHarness.Syntax.Automaton.Plain

/-- The rows of successors 0 to 63. -/
def gotos0 : Array Nat := #[
  0x0,
  0xe1fc3000fc2135eb6018cb203248703248403248203248000d27e03247d03247c03247b08017608017508017408017303247105396e0e1e5b05105707ff5507ff5407ff5207ff51135d5008014f08014e08014d08014c14874a0801480b124708014605394505394408014307304207ff4114863e07ff3d03243c07ff3b03243a07ff3903243707ff3614873407ff3314873007ff2f08012e06ce2d072f2c05392b03232503232403232303232203232103232003231f03231e03231d03231c03231b032319032318032317032316032314032412032411032310000f0f0323080d3507032306032301148500,
  0x10edc30b16c10b18c00b18bf0b16be0b18bd0b18bc1386b60b18b30224b20b18b10b18b00b18af0b18ae0b19ad0b18ac0b18aa0b18a90b18a80b18a10b18a00b169f0b189e0b179c0b169b0b92950b0e920b0d910b0c8106507e06507606507506507406507304f86e0d3a5e0ebf5d0ec55b051057064f55064f54064f5208215106504f06504e06504d06504c0e1b4a0650480b5b4706504604f84504f84406504305ee42064f4115743e064f3d064f3b064f39064f36149e350e1b34064f330e1b30064f2f06502e05dd2d0a112c04c52b0d4c07,
  0x110cc9110bc80e1fc30011c2135eb6018cb20a84890a718803248703248403248203248000d27e03247d03247c03247b08017608017508017408017303247105396e0d37630d3762110961110a60110a5f11095e0e1e5b05105707ff5507ff5407ff52080251135d5008014f08014e08014d08014c110a4b148c4a0801480b124708014605394505394408014307304207ff4114863e07ff3d03243c07ff3b03243a07ff3903243707ff36148c3407ff33110932148c3007ff2f08012e06ce2d072f2c05392b03232503232403232303232203232103232003231f03231e03231d03231c03231b03231903231803231703231603231403241203241103231000110f0323080d3507032306032301,
  0x110cc9110bc80e1fc30013c2135eb6018cb20a84890a718803248703248403248203248000d27e03247d03247c03247b08017608017508017408017303247105396e0d37630d3762110961110a60110a5f11095e0e1e5b05105707ff5507ff5407ff52080251135d5008014f08014e08014d08014c110a4b148c4a0801480b124708014605394505394408014307304207ff4114863e07ff3d03243c07ff3b03243a07ff3903243707ff36148c3407ff33110932148c3007ff2f08012e06ce2d072f2c05392b03232503232403232303232203232103232003231f03231e03231d03231c03231b03231903231803231703231603231403241203241103231000130f0323080d3507032306032301,
  0x110cc912fcc80e1fc30017c2135eb6018cb20a84890a718803248703248403248203248000d27e03247d03247c03247b08017608017508017408017303247105396e0d37630d376211096112fb6012fb5f11095e0e1e5b05105707ff5507ff5407ff52080251135d5008014f08014e08014d08014c12fb4b148c4a0801480b124708014605394505394408014307304207ff4114863e07ff3d03243c07ff3b03243a07ff3903243707ff36148c3407ff33110932148c3007ff2f08012e06ce2d072f2c05392b03232503232403232303232203232103232003231f03231e03231d03231c03231b03231903231803231703231603231403241203241103231000170f0323080d3507032306032301,
  0xe1fc30009c2135eb6018cb203248703248403248203248000d27e03247d03247c03247b08017608017508017408017303247105396e0e1e5b05105707ff5507ff5407ff5207ff51135d5008014f08014e08014d08014c14874a0801480b124708014605394505394408014307304207ff4114863e07ff3d03243c07ff3b03243a07ff3903243707ff3614873407ff3314873007ff2f08012e06ce2d072f2c05392b03232503232403232303232203232103232003231f03231e03231d03231c03231b03231903231803231703231603231403241203241103231000090f0323080d3507032306032301,
  0xe1fc3000bc2135eb6018cb203248703248403248203248000d27e03247d03247c03247b08017608017508017408017303247105396e0e1e5b05105707ff5507ff5407ff5207ff51135d5008014f08014e08014d08014c14874a0801480b124708014605394505394408014307304207ff4114863e07ff3d03243c07ff3b03243a07ff3903243707ff3614873407ff3314873007ff2f08012e06ce2d072f2c05392b03232503232403232303232203232103232003231f03231e03231d03231c03231b032319032318032317032316032314032412032411032310000b0f0323080d3507032306032301,
  0xe1fc3000dc2135eb6018cb203248703248403248203248000d27e03247d03247c03247b08017608017508017408017303247105396e0e1e5b05105707ff5507ff5407ff5207ff51135d5008014f08014e08014d08014c14874a0801480b124708014605394505394408014307304207ff4114863e07ff3d03243c07ff3b03243a07ff3903243707ff3614873407ff3314873007ff2f08012e06ce2d072f2c05392b03232503232403232303232203232103232003231f03231e03231d03231c03231b032319032318032317032316032314032412032411032310000d0f0323080d3507032306032301,
  0xe1fc30010c2135eb6018cb203248703248403248203248000d27e03247d03247c03247b08017608017508017408017303247105396e0e1e5b05105707ff5507ff5407ff5207ff51135d5008014f08014e08014d08014c14874a0801480b124708014605394505394408014307304207ff4114863e07ff3d03243c07ff3b03243a07ff3903243707ff3614873407ff3314873007ff2f08012e06ce2d072f2c05392b03232503232403232303232203232103232003231f03231e03231d03231c03231b03231903231803231703231603231403241203241103231000100f0323080d3507032306032301,
  0xe1fc30011c2135eb6018cb203248703248403248203248000d27e03247d03247c03247b08017608017508017408017303247105396e0e1e5b05105707ff5507ff5407ff5207ff51135d5008014f08014e08014d08014c14874a0801480b124708014605394505394408014307304207ff4114863e07ff3d03243c07ff3b03243a07ff3903243707ff3614873407ff3314873007ff2f08012e06ce2d072f2c05392b03232503232403232303232203232103232003231f03231e03231d03231c03231b03231903231803231703231603231403241203241103231000110f0323080d3507032306032301,
  0xe1fc30015c2135eb6018cb203248703248403248203248000d27e03247d03247c03247b08017608017508017408017303247105396e0e1e5b05105707ff5507ff5407ff5207ff51135d5008014f08014e08014d08014c14874a0801480b124708014605394505394408014307304207ff4114863e07ff3d03243c07ff3b03243a07ff3903243707ff3614873407ff3314873007ff2f08012e06ce2d072f2c05392b03232503232403232303232203232103232003231f03231e03231d03231c03231b03231903231803231703231603231403241203241103231000150f0323080d3507032306032301,
  0xe1fc30013c2135eb6018cb203248703248403248203248000d27e03247d03247c03247b08017608017508017408017303247105396e0e1e5b05105707ff5507ff5407ff5207ff51135d5008014f08014e08014d08014c14874a0801480b124708014605394505394408014307304207ff4114863e07ff3d03243c07ff3b03243a07ff3903243707ff3614873407ff3314873007ff2f08012e06ce2d072f2c05392b03232503232403232303232203232103232003231f03231e03231d03231c03231b03231903231803231703231603231403241203241103231000130f0323080d3507032306032301,
  0xe1fc30017c2135eb6018cb203248703248403248203248000d27e03247d03247c03247b08017608017508017408017303247105396e0e1e5b05105707ff5507ff5407ff5207ff51135d5008014f08014e08014d08014c14874a0801480b124708014605394505394408014307304207ff4114863e07ff3d03243c07ff3b03243a07ff3903243707ff3614873407ff3314873007ff2f08012e06ce2d072f2c05392b03232503232403232303232203232103232003231f03231e03231d03231c03231b03231903231803231703231603231403241203241103231000170f0323080d3507032306032301,
  0xe1fc30019c2135eb6018cb203248703248403248203248000d27e03247d03247c03247b08017608017508017408017303247105396e0e1e5b05105707ff5507ff5407ff5207ff51135d5008014f08014e08014d08014c14874a0801480b124708014605394505394408014307304207ff4114863e07ff3d03243c07ff3b03243a07ff3903243707ff3614873407ff3314873007ff2f08012e06ce2d072f2c05392b03232503232403232303232203232103232003231f03231e03231d03231c03231b03231903231803231703231603231403241203241103231000190f0323080d3507032306032301,
  0xe1fc3001ec2135eb6018cb203248703248403248203248000d27e03247d03247c03247b08017608017508017408017303247105396e0e1e5b05105707ff5507ff5407ff5207ff51135d5008014f08014e08014d08014c14874a0801480b124708014605394505394408014307304207ff4114863e07ff3d03243c07ff3b03243a07ff3903243707ff3614873407ff3314873007ff2f08012e06ce2d072f2c05392b03232503232403232303232203232103232003231f03231e03231d03231c03231b032319032318032317032316032314032412032411032310001e0f0323080d3507032306032301,
  0xe1fc3001bc2135eb6018cb203248703248403248203248000d27e03247d03247c03247b08017608017508017408017303247105396e0e1e5b05105707ff5507ff5407ff5207ff51135d5008014f08014e08014d08014c14874a0801480b124708014605394505394408014307304207ff4114863e07ff3d03243c07ff3b03243a07ff3903243707ff3614873407ff3314873007ff2f08012e06ce2d072f2c05392b03232503232403232303232203232103232003231f03231e03231d03231c03231b032319032318032317032316032314032412032411032310001b0f0323080d3507032306032301,
  0xe9ec3135eb6018cb2032487032484032482032480090a7e03247d03247c03247b08017608017508017408017303247105396e0e1e5b05105707ff5507ff5407ff5207ff51135d5008014f08014e08014d08014c14874a0801480b124708014605394505394408014307304207ff4114863e07ff3d03243c07ff3b03243a07ff3903243707ff3614873407ff3314873007ff2f08012e06ce2d072f2c05392b03232503232403232303232203232103232003231f03231e03231d03231c03231b03231903231803231703231603231403241203241103231014920f0323080d3507032306032301,
  0xe1fc3135eb6018cb203248703248403248203248000d27e03247d03247c03247b08017608017508017408017303247105396e0e1e5b05105707ff5507ff5407ff5207ff51135d5008014f08014e08014d08014c14874a0801480b124708014605394505394408014307304207ff4114863e07ff3d03243c07ff3b03243a07ff3903243707ff3614873407ff3314873007ff2f08012e06ce2d072f2c05392b03232503232403232303232203232103232003231f03231e03231d03231c03231b03231903231803231703231603231403241203241103231003300f0323080d3507032306032301,
  0xe1fc3135eb6018cb203248703248403248203248000d27e03247d03247c03247b08017608017508017408017303247105396e0e1e5b05105707ff5507ff5407ff5207ff51135d5008014f08014e08014d08014c14874a0801480b124708014605394505394408014307304207ff4114863e07ff3d03243c07ff3b03243a07ff3903243707ff3614873407ff3314873007ff2f08012e06ce2d072f2c05392b03232503232403232303232203232103232003231f03231e03231d03231c03231b03231903231803231703231603231403241203241103231003340f0323080d3507032306032301,
  0xe1fc3135eb6018cb203248703248403248203248000d27e03247d03247c03247b08017608017508017408017303247105396e0e1e5b05105707ff5507ff5407ff5207ff51135d5008014f08014e08014d08014c14874a0801480b124708014605394505394408014307304207ff4114863e07ff3d03243c07ff3b03243a07ff3903243707ff3614873407ff3314873007ff2f08012e06ce2d072f2c05392b03232503232403232303232203232103232003231f03231e03231d03231c03231b032319032318032317032316032314032412032411032310030d0f0323080d3507032306032301,
  0xe1fc3135eb6018cb203248703248403248203248000d27e03247d03247c03247b08017608017508017408017303247105396e0e1e5b05105707ff5507ff5407ff5207ff51135d5008014f08014e08014d08014c14874a0801480b124708014605394505394408014307304207ff4114863e07ff3d03243c07ff3b03243a07ff3903243707ff3614873407ff3314873007ff2f08012e06ce2d072f2c05392b03232503232403232303232203232103232003231f03231e03231d03231c03231b03231903231803231703231603231403241203241103231003380f0323080d3507032306032301,
  0xe1fc3135eb6018cb203248703248403248203248000d27e03247d03247c03247b08017608017508017408017303247105396e0e1e5b05105707ff5507ff5407ff5207ff51135d5008014f08014e08014d08014c14874a0801480b124708014605394505394408014307304207ff4114863e07ff3d03243c07ff3b03243a07ff3903243707ff3614873407ff3314873007ff2f08012e06ce2d072f2c05392b03232503232403232303232203232103232003231f03231e03231d03231c03231b03231903231803231703231603231403241203241103231003390f0323080d3507032306032301,
  0xe1fc3135eb6018cb203248703248403248203248000d27e03247d03247c03247b08017608017508017408017303247105396e0e1e5b05105707ff5507ff5407ff5207ff51135d5008014f08014e08014d08014c14874a0801480b124708014605394505394408014307304207ff4114863e07ff3d03243c07ff3b03243a07ff3903243707ff3614873407ff3314873007ff2f08012e06ce2d072f2c05392b03232503232403232303232203232103232003231f03231e03231d03231c03231b03231903231803231703231603231403241203241103231003510f0323080d3507032306032301,
  0x1113cb1301ca10edc30b16c10b18c00b18bf0b16be0b18bd0b18bc147cb60b18b301f2b20b18b10b18b00b18af0b18ae0b19ad0b18ac0b18aa0b18a90b18a80b18a10b18a00b169f0b189e0b179c0b169b11379a1137991137981137971137960e30950b0e920c73910b0c8106507e065076065075065074065073056c6e0ed95e10815d10715b051057064f55064f54064f5208215106504f06504e06504d06504c13004b10f74a0650480b5647065046056c45056c4406504305ee42064f41156b3e064f3d064f3b064f39064f36149e3510f734064f3311103110f730064f2f06502e05dd2d08c12c05342b0e0a07,
  0xe1fc3135eb6018cb203248703248403248203248000d27e03247d03247c03247b08017608017508017408017303247105396e0e1e5b05105707ff5507ff5407ff5207ff51135d5008014f08014e08014d08014c14874a0801480b124708014605394505394408014307304207ff4114863e07ff3d03243c07ff3b03243a07ff3903243707ff3614873407ff3314873007ff2f08012e06ce2d072f2c05392b03232503232403232303232203232103232003231f03231e03231d03231c03231b03231903231803231703231603231403241203241103231003690f0323080d3507032306032301,
  0xe1fc3135eb6018cb203248703248403248203248000d27e03247d03247c03247b08017608017508017408017303247105396e0e1e5b05105707ff5507ff5407ff5207ff51135d5008014f08014e08014d08014c14874a0801480b124708014605394505394408014307304207ff4114863e07ff3d03243c07ff3b03243a07ff3903243707ff3614873407ff3314873007ff2f08012e06ce2d072f2c05392b03232503232403232303232203232103232003231f03231e03231d03231c03231b032319032318032317032316032314032412032411032310037f0f0323080d3507032306032301,
  0xe1fc3135eb6018cb203248703248403248203248000d27e03247d03247c03247b08017608017508017408017303247105396e0e1e5b05105707ff5507ff5407ff5207ff51135d5008014f08014e08014d08014c14874a0801480b124708014605394505394408014307304207ff4114863e07ff3d03243c07ff3b03243a07ff3903243707ff3614873407ff3314873007ff2f08012e06ce2d072f2c05392b03232503232403232303232203232103232003231f03231e03231d03231c03231b032319032318032317032316032314032412032411032310038c0f0323080d3507032306032301,
  0xe1fc3135eb6018cb203248703248403248203248000d27e03247d03247c03247b08017608017508017408017303247105396e0e1e5b05105707ff5507ff5407ff5207ff51135d5008014f08014e08014d08014c14874a0801480b124708014605394505394408014307304207ff4114863e07ff3d03243c07ff3b03243a07ff3903243707ff3614873407ff3314873007ff2f08012e06ce2d072f2c05392b03232503232403232303232203232103232003231f03231e03231d03231c03231b032319032318032317032316032314032412032411032310038d0f0323080d3507032306032301,
  0xe1fc3135eb6018cb203248703248403248203248000d27e03247d03247c03247b08017608017508017408017303247105396e0e1e5b05105707ff5507ff5407ff5207ff51135d5008014f08014e08014d08014c14874a0801480b124708014605394505394408014307304207ff4114863e07ff3d03243c07ff3b03243a07ff3903243707ff3614873407ff3314873007ff2f08012e06ce2d072f2c05392b03232503232403232303232203232103232003231f03231e03231d03231c03231b032319032318032317032316032314032412032411032310038e0f0323080d3507032306032301,
  0xe1fc3135eb6018cb203248703248403248203248000d27e03247d03247c03247b08017608017508017408017303247105396e0e1e5b05105707ff5507ff5407ff5207ff51135d5008014f08014e08014d08014c14874a0801480b124708014605394505394408014307304207ff4114863e07ff3d03243c07ff3b03243a07ff3903243707ff3614873407ff3314873007ff2f08012e06ce2d072f2c05392b03232503232403232303232203232103232003231f03231e03231d03231c03231b03231903231803231703231603231403241203241103231003950f0323080d3507032306032301,
  0xe1fc3135eb6018cb203248703248403248203248000d27e03247d03247c03247b08017608017508017408017303247105396e0e1e5b05105707ff5507ff5407ff5207ff51135d5008014f08014e08014d08014c14874a0801480b124708014605394505394408014307304207ff4114863e07ff3d03243c07ff3b03243a07ff3903243707ff3614873407ff3314873007ff2f08012e06ce2d072f2c05392b03232503232403232303232203232103232003231f03231e03231d03231c03231b03231903231803231703231603231403241203241103231003960f0323080d3507032306032301,
  0xe1fc3135eb6018cb203248703248403248203248000d27e03247d03247c03247b08017608017508017408017303247105396e0e1e5b05105707ff5507ff5407ff5207ff51135d5008014f08014e08014d08014c14874a0801480b124708014605394505394408014307304207ff4114863e07ff3d03243c07ff3b03243a07ff3903243707ff3614873407ff3314873007ff2f08012e06ce2d072f2c05392b03232503232403232303232203232103232003231f03231e03231d03231c03231b03231903231803231703231603231403241203241103231003970f0323080d3507032306032301,
  0xe1fc3135eb6018cb203248703248403248203248000d27e03247d03247c03247b08017608017508017408017303247105396e0e1e5b05105707ff5507ff5407ff5207ff51135d5008014f08014e08014d08014c14874a0801480b124708014605394505394408014307304207ff4114863e07ff3d03243c07ff3b03243a07ff3903243707ff3614873407ff3314873007ff2f08012e06ce2d072f2c05392b03232503232403232303232203232103232003231f03231e03231d03231c03231b03231903231803231703231603231403241203241103231003980f0323080d3507032306032301,
  0xe9ec3135eb6018cb2032487032484032482032480090a7e03247d03247c03247b08017608017508017408017303247105396e0e1e5b05105707ff5507ff5407ff5207ff51135d5008014f08014e08014d08014c14874a0801480b124708014605394505394408014307304207ff4114863e07ff3d03243c07ff3b03243a07ff3903243707ff3614873407ff3314873007ff2f08012e06ce2d072f2c05392b03232503232403232303232203232103232003231f03231e03231d03231c03231b03231903231803231703231603231403241203241103231003300f0323080d3507032306032301,
  0xe9ec3135eb6018cb2032487032484032482032480090a7e03247d03247c03247b08017608017508017408017303247105396e0e1e5b05105707ff5507ff5407ff5207ff51135d5008014f08014e08014d08014c14874a0801480b124708014605394505394408014307304207ff4114863e07ff3d03243c07ff3b03243a07ff3903243707ff3614873407ff3314873007ff2f08012e06ce2d072f2c05392b03232503232403232303232203232103232003231f03231e03231d03231c03231b03231903231803231703231603231403241203241103231003340f0323080d3507032306032301,
  0xe9ec3135eb6018cb2032487032484032482032480090a7e03247d03247c03247b08017608017508017408017303247105396e0e1e5b05105707ff5507ff5407ff5207ff51135d5008014f08014e08014d08014c14874a0801480b124708014605394505394408014307304207ff4114863e07ff3d03243c07ff3b03243a07ff3903243707ff3614873407ff3314873007ff2f08012e06ce2d072f2c05392b03232503232403232303232203232103232003231f03231e03231d03231c03231b032319032318032317032316032314032412032411032310134f0f0323080d3507032306032301,
  0xe9ec3135eb6018cb2032487032484032482032480090a7e03247d03247c03247b08017608017508017408017303247105396e0e1e5b05105707ff5507ff5407ff5207ff51135d5008014f08014e08014d08014c14874a0801480b124708014605394505394408014307304207ff4114863e07ff3d03243c07ff3b03243a07ff3903243707ff3614873407ff3314873007ff2f08012e06ce2d072f2c05392b03232503232403232303232203232103232003231f03231e03231d03231c03231b03231903231803231703231603231403241203241103231003380f0323080d3507032306032301,
  0xe9ec3135eb6018cb2032487032484032482032480090a7e03247d03247c03247b08017608017508017408017303247105396e0e1e5b05105707ff5507ff5407ff5207ff51135d5008014f08014e08014d08014c14874a0801480b124708014605394505394408014307304207ff4114863e07ff3d03243c07ff3b03243a07ff3903243707ff3614873407ff3314873007ff2f08012e06ce2d072f2c05392b03232503232403232303232203232103232003231f03231e03231d03231c03231b03231903231803231703231603231403241203241103231003390f0323080d3507032306032301,
  0xe9ec3135eb6018cb2032487032484032482032480090a7e03247d03247c03247b08017608017508017408017303247105396e0e1e5b05105707ff5507ff5407ff5207ff51135d5008014f08014e08014d08014c14874a0801480b124708014605394505394408014307304207ff4114863e07ff3d03243c07ff3b03243a07ff3903243707ff3614873407ff3314873007ff2f08012e06ce2d072f2c05392b03232503232403232303232203232103232003231f03231e03231d03231c03231b03231903231803231703231603231403241203241103231003510f0323080d3507032306032301,
  0x1113cb1112ca10edc30b16c10b18c00b18bf0b16be0b18bd0b18bc147cb60b18b301f2b20b18b10b18b00b18af0b18ae0b19ad0b18ac0b18aa0b18a90b18a80b18a10b18a00b169f0b189e0b179c0b169b11379a1137991137981137971137960e30950b0e920c73910b0c8106507e065076065075065074065073056c6e0ed95e10815d10715b051057064f55064f54064f5208215106504f06504e06504d06504c11114b10f74a0650480b5647065046056c45056c4406504305ee42064f41156b3e064f3d064f3b064f39064f36149e3510f734064f3311103110f730064f2f06502e05dd2d08052c05342b0e0a07,
  0xe9ec3135eb6018cb2032487032484032482032480090a7e03247d03247c03247b08017608017508017408017303247105396e0e1e5b05105707ff5507ff5407ff5207ff51135d5008014f08014e08014d08014c14874a0801480b124708014605394505394408014307304207ff4114863e07ff3d03243c07ff3b03243a07ff3903243707ff3614873407ff3314873007ff2f08012e06ce2d072f2c05392b03232503232403232303232203232103232003231f03231e03231d03231c03231b03231903231803231703231603231403241203241103231003690f0323080d3507032306032301,
  0xe9ec3135eb6018cb2032487032484032482032480090a7e03247d03247c03247b08017608017508017408017303247105396e0e1e5b05105707ff5507ff5407ff5207ff51135d5008014f08014e08014d08014c14874a0801480b124708014605394505394408014307304207ff4114863e07ff3d03243c07ff3b03243a07ff3903243707ff3614873407ff3314873007ff2f08012e06ce2d072f2c05392b03232503232403232303232203232103232003231f03231e03231d03231c03231b032319032318032317032316032314032412032411032310037f0f0323080d3507032306032301,
  0xe9ec3135eb6018cb2032487032484032482032480090a7e03247d03247c03247b08017608017508017408017303247105396e0e1e5b05105707ff5507ff5407ff5207ff51135d5008014f08014e08014d08014c14874a0801480b124708014605394505394408014307304207ff4114863e07ff3d03243c07ff3b03243a07ff3903243707ff3614873407ff3314873007ff2f08012e06ce2d072f2c05392b03232503232403232303232203232103232003231f03231e03231d03231c03231b032319032318032317032316032314032412032411032310038c0f0323080d3507032306032301,
  0xe9ec3135eb6018cb2032487032484032482032480090a7e03247d03247c03247b08017608017508017408017303247105396e0e1e5b05105707ff5507ff5407ff5207ff51135d5008014f08014e08014d08014c14874a0801480b124708014605394505394408014307304207ff4114863e07ff3d03243c07ff3b03243a07ff3903243707ff3614873407ff3314873007ff2f08012e06ce2d072f2c05392b03232503232403232303232203232103232003231f03231e03231d03231c03231b032319032318032317032316032314032412032411032310038d0f0323080d3507032306032301,
  0xe9ec3135eb6018cb2032487032484032482032480090a7e03247d03247c03247b08017608017508017408017303247105396e0e1e5b05105707ff5507ff5407ff5207ff51135d5008014f08014e08014d08014c14874a0801480b124708014605394505394408014307304207ff4114863e07ff3d03243c07ff3b03243a07ff3903243707ff3614873407ff3314873007ff2f08012e06ce2d072f2c05392b03232503232403232303232203232103232003231f03231e03231d03231c03231b032319032318032317032316032314032412032411032310038e0f0323080d3507032306032301,
  0xe9ec3135eb6018cb2032487032484032482032480090a7e03247d03247c03247b08017608017508017408017303247105396e0e1e5b05105707ff5507ff5407ff5207ff51135d5008014f08014e08014d08014c14874a0801480b124708014605394505394408014307304207ff4114863e07ff3d03243c07ff3b03243a07ff3903243707ff3614873407ff3314873007ff2f08012e06ce2d072f2c05392b03232503232403232303232203232103232003231f03231e03231d03231c03231b03231903231803231703231603231403241203241103231003950f0323080d3507032306032301,
  0xe9ec3135eb6018cb2032487032484032482032480090a7e03247d03247c03247b08017608017508017408017303247105396e0e1e5b05105707ff5507ff5407ff5207ff51135d5008014f08014e08014d08014c14874a0801480b124708014605394505394408014307304207ff4114863e07ff3d03243c07ff3b03243a07ff3903243707ff3614873407ff3314873007ff2f08012e06ce2d072f2c05392b03232503232403232303232203232103232003231f03231e03231d03231c03231b03231903231803231703231603231403241203241103231003960f0323080d3507032306032301,
  0xe9ec3135eb6018cb2032487032484032482032480090a7e03247d03247c03247b08017608017508017408017303247105396e0e1e5b05105707ff5507ff5407ff5207ff51135d5008014f08014e08014d08014c14874a0801480b124708014605394505394408014307304207ff4114863e07ff3d03243c07ff3b03243a07ff3903243707ff3614873407ff3314873007ff2f08012e06ce2d072f2c05392b03232503232403232303232203232103232003231f03231e03231d03231c03231b03231903231803231703231603231403241203241103231003970f0323080d3507032306032301,
  0xe9ec3135eb6018cb2032487032484032482032480090a7e03247d03247c03247b08017608017508017408017303247105396e0e1e5b05105707ff5507ff5407ff5207ff51135d5008014f08014e08014d08014c14874a0801480b124708014605394505394408014307304207ff4114863e07ff3d03243c07ff3b03243a07ff3903243707ff3614873407ff3314873007ff2f08012e06ce2d072f2c05392b03232503232403232303232203232103232003231f03231e03231d03231c03231b03231903231803231703231603231403241203241103231003980f0323080d3507032306032301,
  0x1113cb1301ca10edc30b16c10b18c00b18bf0b16be0b18bd0b18bc147cb60b18b301f2b20b18b10b18b00b18af0b18ae0b19ad0b18ac0b18aa0b18a90b18a80b18a10b18a00b169f0b189e0b179c0b169b13239a1323991323981323971323960e30950b0e920c73910b0c8106507e065076065075065074065073056c6e0ed95e10815d10715b051057064f55064f54064f5208215106504f06504e06504d06504c13004b10f74a0650480b5647065046056c45056c4406504305ee42064f41156b3e064f3d064f3b064f39064f36149e3510f734064f3311103110f730064f2f06502e05dd2d08c12c05342b0e0a07,
  0x1121c91120c8107cc3135eb60224b206507e065076065075065074065073052b6e0e1e5b05105707ff5507ff5407ff5207ff5106504f06504e06504d06504c14f24a0650480b5b47065046052b45052b440650430a2f4207ff4114863e07ff3d07ff3b07ff3907ff3614f23407ff3314f23007ff2f06502e064d2d09ef2c052b2b0d3507,
  0x1121c91306c8107cc3135eb60224b206507e065076065075065074065073052b6e0e1e5b05105707ff5507ff5407ff5207ff5106504f06504e06504d06504c14f24a0650480b5b47065046052b45052b440650430a2f4207ff4114863e07ff3d07ff3b07ff3907ff3614f23407ff3314f23007ff2f06502e064d2d09ef2c052b2b0d3507,
  0x10edc3135eb60224b206507e06507606507506507406507304f86e0d3a5e0ebf5d0e1e5b051057064f55064f54064f52064f5106504f06504e06504d06504c0e1b4a0650480b5b4706504604f84504f84406504305ee42064f4115743e064f3d064f3b064f39064f360e1b34064f330e1b30064f2f06502e05dd2d0a112c04c52b0de907,
  0x10edc3135eb60224b206507e06507606507506507406507304f86e0d3a5e0ed05d0e1e5b051057064f55064f54064f52064f5106504f06504e06504d06504c0e1b4a0650480b5b4706504604f84504f84406504305ee42064f4115743e064f3d064f3b064f39064f360e1b34064f330e1b30064f2f06502e05dd2d0a112c04c52b0de907,
  0x10edc3135eb60224b206507e06507606507506507406507304f86e0d3a5e0ed15d0e1e5b051057064f55064f54064f52064f5106504f06504e06504d06504c0e1b4a0650480b5b4706504604f84504f84406504305ee42064f4115743e064f3d064f3b064f39064f360e1b34064f330e1b30064f2f06502e05dd2d0a112c04c52b0de907,
  0x102c30b16c10b18c00b18bf0b16be0b18bd0b18bc1386b60b18b301b5b20b18b10b18b00b18af0b18ae0b19ad0b18ac0b18aa0b18a90b18a80b18a10b18a00b169f0b189e0b179c0b169b1094950b0e920b0d910d3b8c110f8b110f8a0128890111880b0c8106507e065076065075065074065073053a6e0d3a5e0eb45d0ec55b051057064f55064f54064f5208ad51150e5006504f06504e06504d06504c0eb34a0650480b5547065046053a45053a4406504305ee42064f41110f3f14f13e064f3d064f3b064f39064f36149e350eb334064f330eb330064f2f06502e05dd2d070c2c055d2b0dfb07,
  0x10edc3135eb60224b206507e06507606507506507406507304f86e0d3a5e0ee85d0e1e5b051057064f55064f54064f52064f5106504f06504e06504d06504c0e1b4a0650480b5b4706504604f84504f84406504305ee42064f4115743e064f3d064f3b064f39064f360e1b34064f330e1b30064f2f06502e05dd2d0a112c04c52b0de907,
  0x10edc3135eb60224b206507e06507606507506507406507304f86e0d3a5e0ee95d0e1e5b051057064f55064f54064f52064f5106504f06504e06504d06504c0e1b4a0650480b5b4706504604f84504f84406504305ee42064f4115743e064f3d064f3b064f39064f360e1b34064f330e1b30064f2f06502e05dd2d0a112c04c52b0de907,
  0x10edc3135eb60224b206507e06507606507506507406507304f86e0d3a5e0eeb5d0e1e5b051057064f55064f54064f52064f5106504f06504e06504d06504c0e1b4a0650480b5b4706504604f84504f84406504305ee42064f4115743e064f3d064f3b064f39064f360e1b34064f330e1b30064f2f06502e05dd2d0a112c04c52b0de907,
  0x10edc3135eb60224b206507e06507606507506507406507304f86e0d3a5e0efa5d0e1e5b051057064f55064f54064f52064f5106504f06504e06504d06504c0e1b4a0650480b5b4706504604f84504f84406504305ee42064f4115743e064f3d064f3b064f39064f360e1b34064f330e1b30064f2f06502e05dd2d0a112c04c52b0de907,
  0x102c30b16c10b18c00b18bf0b16be0b18bd0b18bc1386b60b18b301b5b20b18b10b18b00b18af0b18ae0b19ad0b18ac0b18aa0b18a90b18a80b18a10b18a00b169f0b189e0b179c0b169b1094950b0e920b0d910d3b8c110f8b110f8a0128890111880b0c8106507e065076065075065074065073053a6e0d3a5e0eb45d0ec55b051057064f55064f54064f5208ad5114915006504f06504e06504d06504c0eb34a0650480b5547065046053a45053a4406504305ee42064f41110f3f14f13e064f3d064f3b064f39064f36149e350eb334064f330eb330064f2f06502e05dd2d06d02c055d2b0dfb07,
  0x102c30b16c10b18c00b18bf0b16be0b18bd0b18bc1386b60b18b301b5b20b18b10b18b00b18af0b18ae0b19ad0b18ac0b18aa0b18a90b18a80b18a10b18a00b169f0b189e0b179c0b169b10d0950b0e920b0d910d3b8c110f8b110f8a0128890111880b0c8106507e065076065075065074065073053a6e0d3a5e0eb45d0ec55b051057064f55064f54064f5208ad51150e5006504f06504e06504d06504c0eb34a0650480b5547065046053a45053a4406504305ee42064f41110f3f14f13e064f3d064f3b064f39064f36149e350eb334064f330eb330064f2f06502e05dd2d070c2c055d2b0dfb07,
  0x102c30b16c10b18c00b18bf0b16be0b18bd0b18bc1386b60b18b30224b20b18b10b18b00b18af0b18ae0b19ad0b18ac0b18aa0b18a90b18a80b18a10b18a00b169f0b189e0b179c0b169b1094950b0e920b0d910d3b8c110f8b110f8a0128890111880b0c8106507e06507606507506507406507304f86e0d3a5e0eb45d0ec55b051057064f55064f54064f5208215106504f06504e06504d06504c0e1b4a0650480b5b4706504604f84504f84406504305ee42064f41110f3f15743e064f3d064f3b064f39064f36149e350e1b34064f330e1b30064f2f06502e05dd2d0a112c04c52b0d4c07]

/-- The rows of successors 64 to 127. -/
def gotos1 : Array Nat := #[
  0x10edc3135eb60224b206507e06507606507506507406507304c56e0e1e5b051057064f55064f54064f52064f5106504f06504e06504d06504c14f24a0650480b5b4706504604c54504c54406504305ee42064f4115743e064f3d064f3b064f39064f3614f234064f3314f230064f2f06502e05ce2d0a112c04c52b0de907,
  0x102c30b16c10b18c00b18bf0b16be0b18bd0b18bc1386b60b18b30224b20b18b10b18b00b18af0b18ae0b19ad0b18ac0b18aa0b18a90b18a80b18a10b18a00b169f0b189e0b179c0b169b10c6950b0e920b0d910d3b8c110f8b110f8a0128890111880b0c8106507e06507606507506507406507304f86e0d3a5e0eb45d0ec55b051057064f55064f54064f5208215106504f06504e06504d06504c0e1b4a0650480b5b4706504604f84504f84406504305ee42064f41110f3f15743e064f3d064f3b064f39064f36149e350e1b34064f330e1b30064f2f06502e05dd2d0a112c04c52b0d4c07,
  0x102c30b16c10b18c00b18bf0b16be0b18bd0b18bc1386b60b18b30224b20b18b10b18b00b18af0b18ae0b19ad0b18ac0b18aa0b18a90b18a80b18a10b18a00b169f0b189e0b179c0b169b10d0950b0e920b0d910d3b8c110f8b110f8a0128890111880b0c8106507e06507606507506507406507304f86e0d3a5e0eb45d0ec55b051057064f55064f54064f5208215106504f06504e06504d06504c0e1b4a0650480b5b4706504604f84504f84406504305ee42064f41110f3f15743e064f3d064f3b064f39064f36149e350e1b34064f330e1b30064f2f06502e05dd2d0a112c04c52b0d4c07,
  0x102c30b16c10b18c00b18bf0b16be0b18bd0b18bc1386b60b18b30224b20b18b10b18b00b18af0b18ae0b19ad0b18ac0b18aa0b18a90b18a80b18a10b18a00b169f0b189e0b179c0b169b10d8950b0e920b0d910d3b8c110f8b110f8a0128890111880b0c8106507e06507606507506507406507304f86e0d3a5e0eb45d0ec55b051057064f55064f54064f5208215106504f06504e06504d06504c0e1b4a0650480b5b4706504604f84504f84406504305ee42064f41110f3f15743e064f3d064f3b064f39064f36149e350e1b34064f330e1b30064f2f06502e05dd2d0a112c04c52b0d4c07,
  0x102c30b16c10b18c00b18bf0b16be0b18bd0b18bc1386b60b18b30224b20b18b10b18b00b18af0b18ae0b19ad0b18ac0b18aa0b18a90b18a80b18a10b18a00b169f0b189e0b179c0b169b10e0950b0e920b0d910d3b8c110f8b110f8a0128890111880b0c8106507e06507606507506507406507304f86e0d3a5e0eb45d0ec55b051057064f55064f54064f5208215106504f06504e06504d06504c0e1b4a0650480b5b4706504604f84504f84406504305ee42064f41110f3f15743e064f3d064f3b064f39064f36149e350e1b34064f330e1b30064f2f06502e05dd2d0a112c04c52b0d4c07,
  0x10edc313afb60224b206507e06507606507506507406507304c56e0eda5b051057064f55064f54064f52064f5106504f06504e06504d06504c14f24a0650480b5b4706504604c54504c54406504305ee42064f41156b3e064f3d064f3b064f39064f3614f234064f3314f230064f2f06502e05ce2d0a112c04c52b0de907,
  0x10edc3135eb60224b206507e06507606507506507406507304c56e0e1e5b051057064f55064f54064f52064f5106504f06504e06504d06504c14f24a0650480b5b4706504604c54504c54406504305ee42064f41156b3e064f3d064f3b064f39064f3614f234064f3314f230064f2f06502e05ce2d0a112c04c52b0de907,
  0x107cc3135eb60224b206507e065076065075065074065073052b6e0e1e5b05105707ff5507ff5407ff5207ff5106504f06504e06504d06504c14f24a0650480b5b47065046052b45052b440650430a2f4207ff4114863e07ff3d07ff3b07ff3907ff3614f23407ff3314f23007ff2f06502e064d2d09ef2c052b2b0d3507,
  0x10edc3135eb60224b206507e06507606507506507406507304c56e0e1e5b051057064f55064f54064f52064f5106504f06504e06504d06504c14f24a0650480b5b4706504604c54504c54406504305ee42064f4114f13e064f3d064f3b064f39064f3614f234064f3314f230064f2f06502e05ce2d0a112c04c52b0de907,
  0x10edc313afb60224b206507e06507606507506507406507304c56e0eda5b051057064f55064f54064f52064f5106504f06504e06504d06504c14f24a0650480b5b4706504604c54504c54406504305ee42064f4115743e064f3d064f3b064f39064f3614f234064f3314f230064f2f06502e05ce2d0a112c04c52b0de907,
  0x107cc313afb60224b206507e065076065075065074065073052b6e0eda5b05105707ff5507ff5407ff5207ff5106504f06504e06504d06504c14f24a0650480b5b47065046052b45052b440650430a2f4207ff4114863e07ff3d07ff3b07ff3907ff3614f23407ff3314f23007ff2f06502e064d2d09ef2c052b2b0d3507,
  0x10edc313afb60224b206507e06507606507506507406507304c56e0eda5b051057064f55064f54064f52064f5106504f06504e06504d06504c14f24a0650480b5b4706504604c54504c54406504305ee42064f4114f13e064f3d064f3b064f39064f3614f234064f3314f230064f2f06502e05ce2d0a112c04c52b0de907,
  0x107cc3135eb60224b206507e065076065075065074065073052b6e0e1e5b05105707ff5507ff5407ff5207ff5106504f06504e06504d06504c14f24a0650480b5b47065046052b45052b440650430a2f4207ff4115b13e07ff3d07ff3b07ff3907ff3614f23407ff3314f23007ff2f06502e064d2d09ef2c052b2b0d3507,
  0x107cc313afb60224b206507e065076065075065074065073052b6e0eda5b05105707ff5507ff5407ff5207ff5106504f06504e06504d06504c14f24a0650480b5b47065046052b45052b440650430a2f4207ff4115b13e07ff3d07ff3b07ff3907ff3614f23407ff3314f23007ff2f06502e064d2d09ef2c052b2b0d3507,
  0x10edc3135eb60224b206507e06507606507506507406507304c56e0e1e5b051057064f55064f54064f52064f5106504f06504e06504d06504c14f24a0650480b5b4706504604c54504c54406504305ee42064f41158b3e064f3d064f3b064f39064f3614f234064f3314f230064f2f06502e05ce2d0a112c04c52b0de907,
  0x10edc31469b60224b206507e06507606507506507406507304c56e10415b051057064f55064f54064f52064f5106504f06504e06504d06504c14f24a0650480b5b4706504604c54504c54406504305ee42064f41156b3e064f3d064f3b064f39064f3614f234064f3314f230064f2f06502e05ce2d0a112c04c52b0de907,
  0x107cc3135eb60224b206507e065076065075065074065073052b6e0e1e5b05105707ff5507ff5407ff5207ff5106504f06504e06504d06504c14f24a0650480b5b47065046052b45052b440650430a2f4207ff4115983e07ff3d07ff3b07ff3907ff3614f23407ff3314f23007ff2f06502e064d2d09ef2c052b2b0d3507,
  0x107cc313afb60224b206507e065076065075065074065073052b6e0eda5b05105707ff5507ff5407ff5207ff5106504f06504e06504d06504c14f24a0650480b5b47065046052b45052b440650430a2f4207ff4115983e07ff3d07ff3b07ff3907ff3614f23407ff3314f23007ff2f06502e064d2d09ef2c052b2b0d3507,
  0x10edc3147eb60224b206507e06507606507506507406507304c56e10735b051057064f55064f54064f52064f5106504f06504e06504d06504c14f24a0650480b5b4706504604c54504c54406504305ee42064f41156b3e064f3d064f3b064f39064f3614f234064f3314f230064f2f06502e05ce2d0a112c04c52b0de907,
  0x10edc313afb60224b206507e06507606507506507406507304c56e0eda5b051057064f55064f54064f52064f5106504f06504e06504d06504c14f24a0650480b5b4706504604c54504c54406504305ee42064f41157c3e064f3d064f3b064f39064f3614f234064f3314f230064f2f06502e05ce2d0a112c04c52b0de907,
  0x10edc3135eb60224b206507e06507606507506507406507304c56e0e1e5b051057064f55064f54064f52064f5106504f06504e06504d06504c14f24a0650480b5b4706504604c54504c54406504305ee42064f41157c3e064f3d064f3b064f39064f3614f234064f3314f230064f2f06502e05ce2d0a112c04c52b0de907,
  0x10edc313afb60224b206507e06507606507506507406507304c56e0eda5b051057064f55064f54064f52064f5106504f06504e06504d06504c14f24a0650480b5b4706504604c54504c54406504305ee42064f4115843e064f3d064f3b064f39064f3614f234064f3314f230064f2f06502e05ce2d0a112c04c52b0de907,
  0x10edc313afb60224b206507e06507606507506507406507304c56e0eda5b051057064f55064f54064f52064f5106504f06504e06504d06504c14f24a0650480b5b4706504604c54504c54406504305ee42064f41158b3e064f3d064f3b064f39064f3614f234064f3314f230064f2f06502e05ce2d0a112c04c52b0de907,
  0x10edc313afb60224b206507e06507606507506507406507304c56e0eda5b051057064f55064f54064f52064f5106504f06504e06504d06504c14f24a0650480b5b4706504604c54504c54406504305ee42064f4115913e064f3d064f3b064f39064f3614f234064f3314f230064f2f06502e05ce2d0a112c04c52b0de907,
  0x10edc3135eb60224b206507e06507606507506507406507304c56e0e1e5b051057064f55064f54064f52064f5106504f06504e06504d06504c14f24a0650480b5b4706504604c54504c54406504305ee42064f4115843e064f3d064f3b064f39064f3614f234064f3314f230064f2f06502e05ce2d0a112c04c52b0de907,
  0x10edc3135eb60224b206507e06507606507506507406507304c56e0e1e5b051057064f55064f54064f52064f5106504f06504e06504d06504c14f24a0650480b5b4706504604c54504c54406504305ee42064f4115913e064f3d064f3b064f39064f3614f234064f3314f230064f2f06502e05ce2d0a112c04c52b0de907,
  0x10edc30c17c10c19c00c19bf0c17be0c19bd0c19bc1466b60c19b301f2b20c19b10c19b00c19af0c19ae0c1aad0c19ac0c19aa0c19a90c19a80c19a10c19a00c179f0c199e0c189c0c179b0c65950c11920ba5910ba68106507e065076065075065074065073056c6e0d3a5e11425d103b5b051057064f55064f54064f5207da5106504f06504e06504d06504c10f74a0650480b5647065046056c45056c4406504305ee42064f41156b3e064f3d064f3b064f39064f3615723510f734064f3313983110f730064f2f06502e05dd2d08ff2c05342b0e0407,
  0x10edc30b16c10b18c00b18bf0b16be0b18bd0b18bc1386b60b18b301f2b20b18b10b18b00b18af0b18ae0b19ad0b18ac0b18aa0b18a90b18a80b18a10b18a010a49f0b189e0edd9c0b169b1138950b0e920b0d910b0c8106507e06507606507506507406507305346e0ec55b051057064f55064f54064f5208ad5114bb5006504f06504e06504d06504c15af4a0650480b564706504605344505344406504305ee42064f41156b3e064f3d064f3b064f39064f36149e3515af34064f3315af30064f2f06502e05dd2d08222c05342b0d4c07,
  0x107cc30b16c10b18c00b18bf0b16be0b18bd0b18bc1386b60b18b3018cb20b18b10b18b00b18af0b18ae0b19ad0b18ac0b18aa0b18a90b18a80b18a10b18a00b169f0b189e0b179c0b169b0e76950b0e920b0d910b0c8108017e08017608017508017408017305396e0ec55b05105707ff5507ff5407ff52076c5108014f08014e08014d08014c14874a0801480b124708014605394505394408014307304207ff4114863e07ff3d07ff3b07ff3907ff36149e3514873407ff3314873007ff2f08012e06ce2d06da2c05392b0def07,
  0x10edc30b16c10b18c00b18bf0b16be0b18bd0b18bc1386b60b18b30224b20b18b10b18b00b18af0b18ae0b19ad0b18ac0b18aa0b18a90b18a80b18a10b18a00b169f0b189e0b179c0b169b0edc950b0e920b0d910b0c8106507e06507606507506507406507305a46e0ec55b051057064f55064f54064f5209c45106504f06504e06504d06504c0e164a0650480b5b4706504605a44505a44406504305ee42064f4115743e064f3d064f3b064f39064f36149e350e1634064f330e1630064f2f06502e05dd2d0a112c04c52b0dfe07,
  0x10edc30b16c10b18c00b18bf0b16be0b18bd0b18bc1386b60b18b301f2b20b18b10b18b00b18af0b18ae0b19ad0b18ac0b18aa0b18a90b18a80b18a10b18a00b169f0b189e0b179c0b169b0edc950b0e920b0d910b0c8106507e065076065075065074065073053d6e0ec55b051057064f55064f54064f5208215106504f06504e06504d06504c0eba4a0650480b5647065046053d45053d4406504305ee42064f41156b3e064f3d064f3b064f39064f36149e350eba34064f330eba30064f2f06502e05dd2d080e2c05342b0d4c07,
  0x10edc30b16c10b18c00b18bf0b16be0b18bd0b18bc1386b60b18b301b5b20b18b10b18b00b18af0b18ae0b19ad0b18ac0b18aa0b18a90b18a80b18a10b18a00b169f0b189e0b179c0b169b0e8a950b0e920b0d910b0c8106507e065076065075065074065073055d6e0ec55b051057064f55064f54064f5206875106504f06504e06504d06504c156c4a0650480b5547065046055d45055d4406504305ee42064f4114f13e064f3d064f3b064f39064f36149e35156c34064f33156c30064f2f06502e05dd2d077f2c055d2b0dfb07,
  0x107cc30b16c10b18c00b18bf0b16be0b18bd0b18bc1386b60b18b301d9b20b18b10b18b00b18af0b18ae0b19ad0b18ac0b18aa0b18a90b18a80b18a10b18a00b169f0b189e0b179c0b169b0e76950b0e920b0d910b0c8108017e08017608017508017408017305756e0ec55b05105707ff5507ff5407ff52092d5108014f08014e08014d08014c15994a0801480b644708014605754505754408014307304207ff4115983e07ff3d07ff3b07ff3907ff36149e3515993407ff3315993007ff2f08012e06ce2d08c82c05752b0e0007,
  0x10edc30b16c10b18c00b18bf0b16be0b18bd0b18bc1386b60b18b301f2b20b18b10b18b00b18af0b18ae0b19ad0b18ac0b18aa0b18a90b18a80b18a10b18a00b169f0b189e0b179c0b169b0e8a950b0e920b0d910b0c8106507e06507606507506507406507305346e0ec55b051057064f55064f54064f5206875106504f06504e06504d06504c15af4a0650480b564706504605344505344406504305ee42064f41156b3e064f3d064f3b064f39064f36149e3515af34064f3315af30064f2f06502e05dd2d06b22c05342b0d4c07,
  0x10edc30b16c10b18c00b18bf0b16be0b18bd0b18bc1386b60b18b30224b20b18b10b18b00b18af0b18ae0b19ad0b18ac0b18aa0b18a90b18a80b18a10b18a00b169f0b189e0b179c0b169b0e8a950b0e920b0d910b0c8106507e06507606507506507406507304c56e0ec55b051057064f55064f54064f5208a85106504f06504e06504d06504c14f24a0650480b5b4706504604c54504c54406504305ee42064f4115743e064f3d064f3b064f39064f36149e3514f234064f3314f230064f2f06502e05dd2d09ce2c04c52b0dfe07,
  0x10edc30b16c10b18c00b18bf0b16be0b18bd0b18bc1386b60b18b30257b20b18b10b18b00b18af0b18ae0b19ad0b18ac0b18aa0b18a90b18a80b18a10b18a00b169f0b189e0b179c0b169b0e8a950b0e920b0d910b0c8106507e06507606507506507406507305a86e0ec55b051057064f55064f54064f5208a85106504f06504e06504d06504c15ba4a0650480b614706504605a84505a84406504305ee42064f4115843e064f3d064f3b064f39064f36149e3515ba34064f3315ba30064f2f06502e05dd2d09402c05a82b0dfe07,
  0x10edc30b16c10b18c00b18bf0b16be0b18bd0b18bc1386b60b18b30270b20b18b10b18b00b18af0b18ae0b19ad0b18ac0b18aa0b18a90b18a80b18a10b18a00b169f0b189e0b179c0b169b0e8a950b0e920b0d910b0c8106507e06507606507506507406507305a96e0ec55b051057064f55064f54064f5208a85106504f06504e06504d06504c15bc4a0650480b624706504605a94505a94406504305ee42064f41158b3e064f3d064f3b064f39064f36149e3515bc34064f3315bc30064f2f06502e05dd2d095a2c05a92b0e0207,
  0x107cc30b16c10b18c00b18bf0b16be0b18bd0b18bc1386b60b18b3020db20b18b10b18b00b18af0b18ae0b19ad0b18ac0b18aa0b18a90b18a80b18a10b18a00b169f0b189e0b179c0b169b0e76950b0e920b0d910b0c8108017e08017608017508017408017305526e0ec55b05105707ff5507ff5407ff52076c5108014f08014e08014d08014c15b24a0801480b654708014605524505524408014307304207ff4115b13e07ff3d07ff3b07ff3907ff36149e3515b23407ff3315b23007ff2f08012e06ce2d07162c05522b0def07,
  0x10edc30b16c10b18c00b18bf0b16be0b18bd0b18bc1386b60b18b3023eb20b18b10b18b00b18af0b18ae0b19ad0b18ac0b18aa0b18a90b18a80b18a10b18a00b169f0b189e0b179c0b169b0e8a950b0e920b0d910b0c8106507e065076065075065074065073056d6e0ec55b051057064f55064f54064f5206875106504f06504e06504d06504c15b84a0650480b5c47065046056d45056d4406504305ee42064f41157c3e064f3d064f3b064f39064f36149e3515b834064f3315b830064f2f06502e05dd2d07e62c056d2b0d4c07,
  0x10edc30b16c10b18c00b18bf0b16be0b18bd0b18bc1386b60b18b30288b20b18b10b18b00b18af0b18ae0b19ad0b18ac0b18aa0b18a90b18a80b18a10b18a00b169f0b189e0b179c0b169b0e8a950b0e920b0d910b0c8106507e06507606507506507406507305ab6e0ec55b051057064f55064f54064f5208a85106504f06504e06504d06504c15bd4a0650480b634706504605ab4505ab4406504305ee42064f4115913e064f3d064f3b064f39064f36149e3515bd34064f3315bd30064f2f06502e05dd2d09802c05ab2b0dfe07,
  0x10edc3135eb601f2b206507e06507606507506507406507305346e0e1e5b051057064f55064f54064f52064f5106504f06504e06504d06504c15af4a0650480b564706504605344505344406504305ee42064f41156b3e064f3d064f3b064f39064f3615af34064f3315af30064f2f06502e05dd2d06cc2c05342b0de907,
  0x107cc3135eb6018cb208017e08017608017508017408017305396e0e1e5b05105707ff5507ff5407ff5207ff5108014f08014e08014d08014c14874a0801480b124708014605394505394408014307304207ff4114863e07ff3d07ff3b07ff3907ff3614873407ff3314873007ff2f08012e06ce2d06d22c05392b0d3507,
  0x107cc3135eb6020db208017e08017608017508017408017305526e0e1e5b05105707ff5507ff5407ff5207ff5108014f08014e08014d08014c15b24a0801480b654708014605524505524408014307304207ff4115b13e07ff3d07ff3b07ff3907ff3615b23407ff3315b23007ff2f08012e06ce2d072d2c05522b0d3507,
  0x10edc3135eb601b5b206507e065076065075065074065073055d6e0e1e5b051057064f55064f54064f52064f5106504f06504e06504d06504c156c4a0650480b5547065046055d45055d4406504305ee42064f4114f13e064f3d064f3b064f39064f36156c34064f33156c30064f2f06502e05dd2d07592c055d2b0de907,
  0x107cc3135eb601d9b208017e08017608017508017408017305756e0e1e5b05105707ff5507ff5407ff5207ff5108014f08014e08014d08014c15994a0801480b644708014605754505754408014307304207ff4115983e07ff3d07ff3b07ff3907ff3615993407ff3315993007ff2f08012e06ce2d08e62c05752b0d3507,
  0x10edc3135eb6023eb206507e065076065075065074065073056d6e0e1e5b051057064f55064f54064f52064f5106504f06504e06504d06504c15b84a0650480b5c47065046056d45056d4406504305ee42064f41157c3e064f3d064f3b064f39064f3615b834064f3315b830064f2f06502e05dd2d07fc2c056d2b0de907,
  0x10edc3135eb60288b206507e06507606507506507406507305ab6e0e1e5b051057064f55064f54064f52064f5106504f06504e06504d06504c15bd4a0650480b634706504605ab4505ab4406504305ee42064f4115913e064f3d064f3b064f39064f3615bd34064f3315bd30064f2f06502e05dd2d09962c05ab2b0de907,
  0x10edc3135eb60257b206507e06507606507506507406507305a86e0e1e5b051057064f55064f54064f52064f5106504f06504e06504d06504c15ba4a0650480b614706504605a84505a84406504305ee42064f4115843e064f3d064f3b064f39064f3615ba34064f3315ba30064f2f06502e05dd2d09722c05a82b0de907,
  0x10edc3135eb60270b206507e06507606507506507406507305a96e0e1e5b051057064f55064f54064f52064f5106504f06504e06504d06504c15bc4a0650480b624706504605a94505a94406504305ee42064f41158b3e064f3d064f3b064f39064f3615bc34064f3315bc30064f2f06502e05dd2d09762c05a92b0de907,
  0x10edc3135eb60224b206507e06507606507506507406507304c56e0e1e5b051057064f55064f54064f52064f5106504f06504e06504d06504c14f24a0650480b5b4706504604c54504c54406504305ee42064f4115743e064f3d064f3b064f39064f3614f234064f3314f230064f2f06502e05dd2d09e52c04c52b0de907,
  0xb16c10b18c00b18bf0b16be0b18bd0b18bc136bb60b18b30b18b10b18b00b18af0b18ae0b19ad0b18ac0b18aa0b18a90b18a80b18a10b18a00b169f0b189e0b179c0b169b0b92950b0e920b0d910b0c81149f5b0b1451149e35111707,
  0xeb8c3135eb601d9b203248703248403248203248000d27e03247d03247c03247b08017608017508017408017303247105756e0e1e5b05105707ff5507ff5407ff5207ff5108014f08014e08014d08014c15994a0801480b644708014605754505754408014307304207ff4115983e07ff3d03243c07ff3b03243a07ff3903243707ff3615993407ff3315993007ff2f08012e06ce2d08f52c05752b0324120324110d3507032f06,
  0xeb8c3135eb601d9b203248703248403248203248000d27e03247d03247c03247b08017608017508017408017303247105756e0e1e5b05105707ff5507ff5407ff5207ff5108014f08014e08014d08014c15994a0801480b644708014605754505754408014307304207ff4115983e07ff3d03243c07ff3b03243a07ff3903243707ff3615993407ff3315993007ff2f08012e06ce2d09032c05752b0324120324110d3507035d06,
  0xb16c10b18c00b18bf0b16be0b18bd0b18bc147bb60b18b30b18b10b18b00b18af0b18ae0b19ad0b18ac0b18aa0b18a90b18a80b18a10b18a00b169f0b189e0b179c0b169b0e18950b0e920c73910b0c8115a15b0b1451149e35134d07,
  0x105bc3135eb601d9b2032487032484032482032480090a7e03247d03247c03247b08017608017508017408017303247105756e0e1e5b05105707ff5507ff5407ff5207ff5108014f08014e08014d08014c15994a0801480b644708014605754505754408014307304207ff4115983e07ff3d03243c07ff3b03243a07ff3903243707ff3615993407ff3315993007ff2f08012e06ce2d09032c05752b0324120324110d3507035d06,
  0xc17c10c19c00c19bf0c17be0c19bd0c19bc146db60c19b30c19b10c19b00c19af0c19ae0c1aad0c19ac0c19aa0c19a90c19a80c19a10c19a00c179f0c199e0c189c0c179b0c23950bf7920b84910ba68115135b0c1551157235131f07,
  0x105bc3135eb601d9b2032487032484032482032480090a7e03247d03247c03247b08017608017508017408017303247105756e0e1e5b05105707ff5507ff5407ff5207ff5108014f08014e08014d08014c15994a0801480b644708014605754505754408014307304207ff4115983e07ff3d03243c07ff3b03243a07ff3903243707ff3615993407ff3315993007ff2f08012e06ce2d08f52c05752b0324120324110d3507032f06,
  0x106cc3135eb601d9b20fe8870fe8840fe8820fe880091c7e0fe87d0fe87c0fe87b0801760801750801740801730fe87105756e0e1e5b05105707ff5507ff5407ff5207ff5108014f08014e08014d08014c15994a0801480b644708014605754505754408014307304207ff4115983e07ff3d0fe83c07ff3b0fe83a07ff390fe83707ff3615993407ff3315993007ff2f08012e06ce2d09342c05752b0fe8120fe8110d3507100b06,
  0x106cc3135eb601d9b20fe8870fe8840fe8820fe880091c7e0fe87d0fe87c0fe87b0801760801750801740801730fe87105756e0e1e5b05105707ff5507ff5407ff5207ff5108014f08014e08014d08014c15994a0801480b644708014605754505754408014307304207ff4115983e07ff3d0fe83c07ff3b0fe83a07ff390fe83707ff3615993407ff3315993007ff2f08012e06ce2d09332c05752b0fe8120fe8110d35070fee06,
  0x102c3135eb601b5b20d3b8c110f8b110f8a01288901118806507e065076065075065074065073053a6e0d3a5e0eb45d0e1e5b051057064f55064f54064f52064f5114915006504f06504e06504d06504c0eb34a0650480b5547065046053a45053a4406504305ee42064f41110f3f14f13e064f3d064f3b064f39064f360eb334064f330eb330064f2f06502e05dd2d06d02c055d2b0de907,
  0x102c3135eb601b5b20d3b8c110f8b110f8a01288901118806507e065076065075065074065073053a6e0d3a5e0eb45d0e1e5b051057064f55064f54064f52064f51150e5006504f06504e06504d06504c0eb34a0650480b5547065046053a45053a4406504305ee42064f41110f3f14f13e064f3d064f3b064f39064f360eb334064f330eb330064f2f06502e05dd2d070c2c055d2b0de907,
  0xd514,
  0x102c3135eb60224b20d3b8c110f8b110f8a01288901118806507e06507606507506507406507304f86e0d3a5e0eb45d0e1e5b051057064f55064f54064f52064f5106504f06504e06504d06504c0e1b4a0650480b5b4706504604f84504f84406504305ee42064f41110f3f15743e064f3d064f3b064f39064f360e1b34064f330e1b30064f2f06502e05dd2d0a112c04c52b0de907,
  0x102c3135eb60224b20d3b8c13a28b13a28a01288901118806507e06507606507506507406507304f86e0d3a5e0eb45d0e1e5b051057064f55064f54064f52064f5106504f06504e06504d06504c0e1b4a0650480b5b4706504604f84504f84406504305ee42064f4113a23f15743e064f3d064f3b064f39064f360e1b34064f330e1b30064f2f06502e05dd2d0a112c04c52b0de907]

/-- The rows of successors 128 to 191. -/
def gotos2 : Array Nat := #[
  0x102c3135eb60224b20d3b8c12fe8b12fe8a01288901118806507e06507606507506507406507304f86e0d3a5e0eb45d0e1e5b051057064f55064f54064f52064f5106504f06504e06504d06504c0e1b4a0650480b5b4706504604f84504f84406504305ee42064f4112fe3f15743e064f3d064f3b064f39064f360e1b34064f330e1b30064f2f06502e05dd2d0a112c04c52b0de907,
  0x102c3135eb60224b20d3b8c131e8b131e8a01288901118806507e06507606507506507406507304f86e0d3a5e0eb45d0e1e5b051057064f55064f54064f52064f5106504f06504e06504d06504c0e1b4a0650480b5b4706504604f84504f84406504305ee42064f41131e3f15743e064f3d064f3b064f39064f360e1b34064f330e1b30064f2f06502e05dd2d0a112c04c52b0de907,
  0x1113cb1112ca10edc3135eb601f2b206507e065076065075065074065073056c6e0d3a5e10815d0e1e5b051057064f55064f54064f52064f5106504f06504e06504d06504c11114b10f74a0650480b5647065046056c45056c4406504305ee42064f41156b3e064f3d064f3b064f39064f3610f734064f3311103110f730064f2f06502e05dd2d08052c05342b0de907,
  0x1113cb1112ca10edc3135eb601f2b206507e065076065075065074065073056c6e0d3a5e10815d0e1e5b051057064f55064f54064f52064f5106504f06504e06504d06504c11114b10f74a0650480b5647065046056c45056c4406504305ee42064f41156b3e064f3d064f3b064f39064f3610f734064f3311103110f730064f2f06502e05dd2d080d2c05342b0de907,
  0x1113cb1301ca10edc3135eb601f2b206507e065076065075065074065073056c6e0d3a5e10815d0e1e5b051057064f55064f54064f52064f5106504f06504e06504d06504c13004b10f74a0650480b5647065046056c45056c4406504305ee42064f41156b3e064f3d064f3b064f39064f3610f734064f3311103110f730064f2f06502e05dd2d08c12c05342b0de907,
  0x1113cb10edc3135eb60270b214cbab06507e065076065075065074065073056e6e0d3a5e10815d0e1e5b051057064f55064f54064f52064f5106504f06504e06504d06504c13564a0650480b6247065046056e45056e4406504305ee42064f41158b3e064f3d064f3b064f39064f36135634064f33111031135630064f2f06502e05dd2d09c72c05a92b0de907,
  0x10edc3135eb601f2b206507e06507606507506507406507305346e0e1e5b051057064f55064f54064f52064f5106504f06504e06504d06504c15af4a0650480b564706504605344505344406504305ee42064f41156b3e064f3d064f3b064f39064f3615af34064f3315af30064f2f06502e05dd2d06ca2c05342b0de907,
  0x1302cb10edc3135eb60224b206507e06507606507506507406507304f86e0d3a5e10bf5d0e1e5b051057064f55064f54064f52064f5106504f06504e06504d06504c0e1b4a0650480b5b4706504604f84504f84406504305ee42064f4115743e064f3d064f3b064f39064f360e1b34064f3312ff310e1b30064f2f06502e05dd2d0a112c04c52b0de907,
  0x10edc3135eb601f2b206507e06507606507506507406507305586e0e1e5b051057064f55064f54064f52064f5114b15006504f06504e06504d06504c112c4a0650480b564706504605584505584406504305ee42064f41156b3e064f3d064f3b064f39064f36112c34064f33112c30064f2f06502e05dd2d08142c05582b0129240129120129110de907,
  0x10edc3135eb601f2b206507e065076065075065074065073056c6e0d3a5e11315d0e1e5b051057064f55064f54064f52064f5106504f06504e06504d06504c11304b10f74a0650480b5647065046056c45056c4406504305ee42064f41156b3e064f3d064f3b064f39064f3610f734064f3313813110f730064f2f06502e05dd2d08fb2c05342b0de907,
  0x1113cb10edc3135eb60270b206507e065076065075065074065073056e6e0d3a5e10815d0e1e5b051057064f55064f54064f52064f5106504f06504e06504d06504c13564a0650480b6247065046056e45056e4406504305ee42064f41158b3e064f3d064f3b064f39064f36135634064f33111031135630064f2f06502e05dd2d099e2c05a92b0de907,
  0x10edc3135eb60224b206507e06507606507506507406507304c56e0e1e5b051057064f55064f54064f52064f5106504f06504e06504d06504c14f24a0650480b5b4706504604c54504c54406504305ee42064f4115743e064f3d064f3b064f39064f3614f234064f3314f230064f2f06502e05dd2d09e32c04c52b0de907,
  0x1113cb10edc3135eb60224b206507e06507606507506507406507304f86e0d3a5e10815d0e1e5b051057064f55064f54064f52064f5106504f06504e06504d06504c0e1b4a0650480b5b4706504604f84504f84406504305ee42064f4115743e064f3d064f3b064f39064f360e1b34064f331110310e1b30064f2f06502e05dd2d0a112c04c52b0de907,
  0x10edc3135eb601f2b206507e06507606507506507406507305586e0e1e5b051057064f55064f54064f52064f5115c35006504f06504e06504d06504c112c4a0650480b564706504605584505584406504305ee42064f41156b3e064f3d064f3b064f39064f36112c34064f33112c30064f2f06502e05dd2d08f42c05582b012e24012e12012e110de907,
  0x10edc3135eb60224b206507e06507606507506507406507304f86e0d3a5e11315d0e1e5b051057064f55064f54064f52064f5106504f06504e06504d06504c0e1b4a0650480b5b4706504604f84504f84406504305ee42064f4115743e064f3d064f3b064f39064f360e1b34064f331381310e1b30064f2f06502e05dd2d0a112c04c52b0de907,
  0x10edc3135eb601b5b206507e065076065075065074065073055d6e0e1e5b051057064f55064f54064f52064f5106504f06504e06504d06504c156c4a0650480b5547065046055d45055d4406504305ee42064f4114f13e064f3d064f3b064f39064f36156c34064f33156c30064f2f06502e05dd2d07572c055d2b0de907,
  0x4f2c3135eb60224b2012b8901138806507e06507606507506507406507304f86e0d3a5e0ec05d0e1e5b051057064f55064f54064f52064f5106504f06504e06504d06504c0e1b4a0650480b5b4706504604f84504f84406504305ee42064f4115743e064f3d064f3b064f39064f360e1b34064f330e1b30064f2f06502e05dd2d0a112c04c52b0de907,
  0x113dca10edc3135eb601b5b206507e065076065075065074065073055d6e0e1e5b051057064f55064f54064f52064f5106504f06504e06504d06504c113c4b156c4a0650480b5547065046055d45055d4406504305ee42064f4114f13e064f3d064f3b064f39064f36156c34064f33156c30064f2f06502e05dd2d08252c055d2b0de907,
  0x107cc3135eb6018cb208017e08017608017508017408017305396e0e1e5b05105707ff5507ff5407ff5207ff5108014f08014e08014d08014c14874a0801480b124708014605394505394408014307304207ff4114863e07ff3d07ff3b07ff3907ff3614873407ff3314873007ff2f08012e06ce2d06cf2c05392b0d3507,
  0x1313ca10edc3135eb601b5b206507e065076065075065074065073055d6e0e1e5b051057064f55064f54064f52064f5106504f06504e06504d06504c13124b156c4a0650480b5547065046055d45055d4406504305ee42064f4114f13e064f3d064f3b064f39064f36156c34064f33156c30064f2f06502e05dd2d08c92c055d2b0de907,
  0x1327ca10edc3135eb601b5b206507e065076065075065074065073055d6e0e1e5b051057064f55064f54064f52064f5106504f06504e06504d06504c13264b156c4a0650480b5547065046055d45055d4406504305ee42064f4114f13e064f3d064f3b064f39064f36156c34064f33156c30064f2f06502e05dd2d08df2c055d2b0de907,
  0x1333ca10edc3135eb601b5b206507e065076065075065074065073055d6e0e1e5b051057064f55064f54064f52064f5106504f06504e06504d06504c13324b156c4a0650480b5547065046055d45055d4406504305ee42064f4114f13e064f3d064f3b064f39064f36156c34064f33156c30064f2f06502e05dd2d08e02c055d2b0de907,
  0x133bca10edc3135eb601b5b206507e065076065075065074065073055d6e0e1e5b051057064f55064f54064f52064f5106504f06504e06504d06504c133a4b156c4a0650480b5547065046055d45055d4406504305ee42064f4114f13e064f3d064f3b064f39064f36156c34064f33156c30064f2f06502e05dd2d08e12c055d2b0de907,
  0x1344ca10edc3135eb601b5b206507e065076065075065074065073055d6e0e1e5b051057064f55064f54064f52064f5106504f06504e06504d06504c13434b156c4a0650480b5547065046055d45055d4406504305ee42064f4114f13e064f3d064f3b064f39064f36156c34064f33156c30064f2f06502e05dd2d08e22c055d2b0de907,
  0x1347ca10edc3135eb601b5b206507e065076065075065074065073055d6e0e1e5b051057064f55064f54064f52064f5106504f06504e06504d06504c13464b156c4a0650480b5547065046055d45055d4406504305ee42064f4114f13e064f3d064f3b064f39064f36156c34064f33156c30064f2f06502e05dd2d08e32c055d2b0de907,
  0x107cc3135eb601d9b208017e08017608017508017408017305756e0e1e5b05105707ff5507ff5407ff5207ff5108014f08014e08014d08014c15994a0801480b644708014605754505754408014307304207ff4115983e07ff3d07ff3b07ff3907ff3615993407ff3315993007ff2f08012e06ce2d08e42c05752b0d3507,
  0x107cc3135eb6020db208017e08017608017508017408017305526e0e1e5b05105707ff5507ff5407ff5207ff5108014f08014e08014d08014c15b24a0801480b654708014605524505524408014307304207ff4115b13e07ff3d07ff3b07ff3907ff3615b23407ff3315b23007ff2f08012e06ce2d072b2c05522b0d3507,
  0x10edc3135eb6023eb206507e065076065075065074065073056d6e0e1e5b051057064f55064f54064f52064f5106504f06504e06504d06504c15b84a0650480b5c47065046056d45056d4406504305ee42064f41157c3e064f3d064f3b064f39064f3615b834064f3315b830064f2f06502e05dd2d07fa2c056d2b0de907,
  0x10edc3135eb60257b206507e06507606507506507406507305a86e0e1e5b051057064f55064f54064f52064f5106504f06504e06504d06504c15ba4a0650480b614706504605a84505a84406504305ee42064f4115843e064f3d064f3b064f39064f3615ba34064f3315ba30064f2f06502e05dd2d09702c05a82b0de907,
  0x10edc3135eb60270b206507e06507606507506507406507305a96e0e1e5b051057064f55064f54064f52064f5106504f06504e06504d06504c15bc4a0650480b624706504605a94505a94406504305ee42064f41158b3e064f3d064f3b064f39064f3615bc34064f3315bc30064f2f06502e05dd2d09742c05a92b0de907,
  0x10edc3135eb60288b206507e06507606507506507406507305ab6e0e1e5b051057064f55064f54064f52064f5106504f06504e06504d06504c15bd4a0650480b634706504605ab4505ab4406504305ee42064f4115913e064f3d064f3b064f39064f3615bd34064f3315bd30064f2f06502e05dd2d09942c05ab2b0de907,
  0x10edc3135eb60224b2012a8906507e06507606507506507406507304f86e0d3a5e0ebf5d0e1e5b051057064f55064f54064f52064f5106504f06504e06504d06504c0e1b4a0650480b5b4706504604f84504f84406504305ee42064f4115743e064f3d064f3b064f39064f360e1b34064f330e1b30064f2f06502e05dd2d0a112c04c52b0de907,
  0x10edc3135eb601f2b206507e065076065075065074065073056c6e0d3a5e11425d0e1e5b051057064f55064f54064f52064f5106504f06504e06504d06504c10f74a0650480b5647065046056c45056c4406504305ee42064f41156b3e064f3d064f3b064f39064f3610f734064f3313983110f730064f2f06502e05dd2d08ff2c05342b0de907,
  0x10edc3135eb60224b2012d8906507e06507606507506507406507304f86e0d3a5e0ed25d0e1e5b051057064f55064f54064f52064f5106504f06504e06504d06504c0e1b4a0650480b5b4706504604f84504f84406504305ee42064f4115743e064f3d064f3b064f39064f360e1b34064f330e1b30064f2f06502e05dd2d0a112c04c52b0de907,
  0x10edc3135eb601f2b206507e06507606507506507406507305346e0e1e5b051057064f55064f54064f52064f5106504f06504e06504d06504c11304b15af4a0650480b564706504605344505344406504305ee42064f41156b3e064f3d064f3b064f39064f3615af34064f3315af30064f2f06502e05dd2d08fb2c05342b0de907,
  0x10edc3135eb60224b20b1aa70af9a60adda50adca406507e06507606507506507406507304c56e0e1e5b051057064f55064f54064f52064f5106504f06504e06504d06504c14f24a0650480b5b4706504604c54504c54406504305ee42064f4115743e064f3d064f3b064f39064f3614f234064f3314f230064f2f06502e05dd2d09e32c04c52b0d5507,
  0x10edc3135eb60224b206507e06507606507506507406507304f86e0d3a5e11425d0e1e5b051057064f55064f54064f52064f5106504f06504e06504d06504c0e1b4a0650480b5b4706504604f84504f84406504305ee42064f4115743e064f3d064f3b064f39064f360e1b34064f331398310e1b30064f2f06502e05dd2d0a112c04c52b0de907,
  0x107cc3135eb6018cb20b1aa70af9a60adda50adca408017e08017608017508017408017305396e0e1e5b05105707ff5507ff5407ff5207ff5108014f08014e08014d08014c14874a0801480b124708014605394505394408014307304207ff4114863e07ff3d07ff3b07ff3907ff3614873407ff3314873007ff2f08012e06ce2d06cf2c05392b0df307,
  0x10edc3135eb601b5b20b1aa70af9a60adda50adca406507e065076065075065074065073055d6e0e1e5b051057064f55064f54064f52064f5106504f06504e06504d06504c156c4a0650480b5547065046055d45055d4406504305ee42064f4114f13e064f3d064f3b064f39064f36156c34064f33156c30064f2f06502e05dd2d07572c055d2b0dfc07,
  0x10edc3135eb601f2b20b1aa70af9a60adda50adca406507e06507606507506507406507305346e0e1e5b051057064f55064f54064f52064f5106504f06504e06504d06504c15af4a0650480b564706504605344505344406504305ee42064f41156b3e064f3d064f3b064f39064f3615af34064f3315af30064f2f06502e05dd2d06ca2c05342b0d5507,
  0x10edc3135eb60224b20b1aa70af9a60adda50adca406507e06507606507506507406507304c56e0e1e5b051057064f55064f54064f52064f5106504f06504e06504d06504c14f24a0650480b5b4706504604c54504c54406504305ee42064f4115743e064f3d064f3b064f39064f3614f234064f3314f230064f2f06502e05dd2d09e32c04c52b0dff07,
  0x10edc3135eb601f2b20c1ca70ba8a60b09a50b08a406507e06507606507506507406507305346e0e1e5b051057064f55064f54064f52064f5106504f06504e06504d06504c15af4a0650480b564706504605344505344406504305ee42064f41156b3e064f3d064f3b064f39064f3615af34064f3315af30064f2f06502e05dd2d06ca2c05342b0e0507,
  0x10edc3135eb601b5b206507e065076065075065074065073055d6e0e1e5b051057064f55064f54064f52064f5106504f06504e06504d06504c11304b156c4a0650480b5547065046055d45055d4406504305ee42064f4114f13e064f3d064f3b064f39064f36156c34064f33156c30064f2f06502e05dd2d096f2c055d2b0de907,
  0x107cc3135eb601d9b20b1aa70af9a60adda50adca408017e08017608017508017408017305756e0e1e5b05105707ff5507ff5407ff5207ff5108014f08014e08014d08014c15994a0801480b644708014605754505754408014307304207ff4115983e07ff3d07ff3b07ff3907ff3615993407ff3315993007ff2f08012e06ce2d08e42c05752b0e0107,
  0x10edc3135eb60257b20b1aa70af9a60adda50adca406507e06507606507506507406507305a86e0e1e5b051057064f55064f54064f52064f5106504f06504e06504d06504c15ba4a0650480b614706504605a84505a84406504305ee42064f4115843e064f3d064f3b064f39064f3615ba34064f3315ba30064f2f06502e05dd2d09702c05a82b0dff07,
  0x107cc3135eb6020db20b1aa70af9a60adda50adca408017e08017608017508017408017305526e0e1e5b05105707ff5507ff5407ff5207ff5108014f08014e08014d08014c15b24a0801480b654708014605524505524408014307304207ff4115b13e07ff3d07ff3b07ff3907ff3615b23407ff3315b23007ff2f08012e06ce2d072b2c05522b0df307,
  0x10edc3135eb60270b20b1aa70af9a60adda50adca406507e06507606507506507406507305a96e0e1e5b051057064f55064f54064f52064f5106504f06504e06504d06504c15bc4a0650480b624706504605a94505a94406504305ee42064f41158b3e064f3d064f3b064f39064f3615bc34064f3315bc30064f2f06502e05dd2d09742c05a92b0e0307,
  0x10edc3135eb6023eb20b1aa70af9a60adda50adca406507e065076065075065074065073056d6e0e1e5b051057064f55064f54064f52064f5106504f06504e06504d06504c15b84a0650480b5c47065046056d45056d4406504305ee42064f41157c3e064f3d064f3b064f39064f3615b834064f3315b830064f2f06502e05dd2d07fa2c056d2b0d5507,
  0x10edc3135eb60288b20b1aa70af9a60adda50adca406507e06507606507506507406507305ab6e0e1e5b051057064f55064f54064f52064f5106504f06504e06504d06504c15bd4a0650480b634706504605ab4505ab4406504305ee42064f4115913e064f3d064f3b064f39064f3615bd34064f3315bd30064f2f06502e05dd2d09942c05ab2b0dff07,
  0x107cc3135eb6018cb208017e08017608017508017408017305396e0e1e5b05105707ff5507ff5407ff5207ff5113675008014f08014e08014d08014c14874a0801480b124708014605394505394408014307304207ff4114863e07ff3d07ff3b07ff3907ff3614873407ff3314873007ff2f08012e06ce2d07322c05392b0d3507,
  0x10edc3135eb601f2b206507e06507606507506507406507305346e0e1e5b051057064f55064f54064f52064f5114ca5006504f06504e06504d06504c15af4a0650480b564706504605344505344406504305ee42064f41156b3e064f3d064f3b064f39064f3615af34064f3315af30064f2f06502e05dd2d08322c05342b0131240de907,
  0x10edc3135eb60224b206507e06507606507506507406507304f86e0d3a5e0ed35d0e1e5b051057064f55064f54064f52064f5106504f06504e06504d06504c0e1b4a0650480b5b4706504604f84504f84406504305ee42064f4115743e064f3d064f3b064f39064f360e1b34064f330e1b30064f2f06502e05dd2d0a112c04c52b0de907,
  0x10edc3135eb601f2b206507e06507606507506507406507305346e0e1e5b051057064f55064f54064f52064f5114d75006504f06504e06504d06504c15af4a0650480b564706504605344505344406504305ee42064f41156b3e064f3d064f3b064f39064f3615af34064f3315af30064f2f06502e05dd2d08562c05342b0133240de907,
  0x10edc3135eb60224b206507e06507606507506507406507304f86e0d3a5e0eea5d0e1e5b051057064f55064f54064f52064f5106504f06504e06504d06504c0e1b4a0650480b5b4706504604f84504f84406504305ee42064f4115743e064f3d064f3b064f39064f360e1b34064f330e1b30064f2f06502e05dd2d0a112c04c52b0de907,
  0x10edc3135eb601f2b206507e06507606507506507406507305346e0e1e5b051057064f55064f54064f52064f5115a85006504f06504e06504d06504c15af4a0650480b564706504605344505344406504305ee42064f41156b3e064f3d064f3b064f39064f3615af34064f3315af30064f2f06502e05dd2d08f12c05342b0135240de907,
  0x10edc3135eb601f2b206507e06507606507506507406507305346e0e1e5b051057064f55064f54064f52064f5115ad5006504f06504e06504d06504c15af4a0650480b564706504605344505344406504305ee42064f41156b3e064f3d064f3b064f39064f3615af34064f3315af30064f2f06502e05dd2d08f22c05342b0137240de907,
  0x10edc3135eb60224b206507e06507606507506507406507305a56e0e1e5b051057064f55064f54064f52064f5106504f06504e06504d06504c13544a0650480b5b4706504605a54505a54406504305ee42064f4115743e064f3d064f3b064f39064f36135434064f33135430064f2f06502e05dd2d0a112c05a52b0de907,
  0x10edc3135eb601b5b206507e065076065075065074065073055d6e0e1e5b051057064f55064f54064f52064f5114d65006504f06504e06504d06504c156c4a0650480b5547065046055d45055d4406504305ee42064f4114f13e064f3d064f3b064f39064f36156c34064f33156c30064f2f06502e05dd2d08552c055d2b0de907,
  0x10edc3135eb601b5b206507e065076065075065074065073055d6e0e1e5b051057064f55064f54064f52064f5114dd5006504f06504e06504d06504c156c4a0650480b5547065046055d45055d4406504305ee42064f4114f13e064f3d064f3b064f39064f36156c34064f33156c30064f2f06502e05dd2d086b2c055d2b0de907,
  0x10edc3135eb601b5b206507e065076065075065074065073055d6e0e1e5b051057064f55064f54064f52064f5114de5006504f06504e06504d06504c156c4a0650480b5547065046055d45055d4406504305ee42064f4114f13e064f3d064f3b064f39064f36156c34064f33156c30064f2f06502e05dd2d086c2c055d2b0de907,
  0x10edc3135eb601b5b206507e065076065075065074065073055d6e0e1e5b051057064f55064f54064f52064f5114ef5006504f06504e06504d06504c156c4a0650480b5547065046055d45055d4406504305ee42064f4114f13e064f3d064f3b064f39064f36156c34064f33156c30064f2f06502e05dd2d087b2c055d2b0de907,
  0x10edc3135eb601b5b206507e065076065075065074065073055d6e0e1e5b051057064f55064f54064f52064f5115655006504f06504e06504d06504c156c4a0650480b5547065046055d45055d4406504305ee42064f4114f13e064f3d064f3b064f39064f36156c34064f33156c30064f2f06502e05dd2d08e92c055d2b0de907,
  0x10edc3135eb601b5b206507e065076065075065074065073055d6e0e1e5b051057064f55064f54064f52064f5115675006504f06504e06504d06504c156c4a0650480b5547065046055d45055d4406504305ee42064f4114f13e064f3d064f3b064f39064f36156c34064f33156c30064f2f06502e05dd2d08eb2c055d2b0de907,
  0x10edc3135eb601b5b206507e065076065075065074065073055d6e0e1e5b051057064f55064f54064f52064f5115685006504f06504e06504d06504c156c4a0650480b5547065046055d45055d4406504305ee42064f4114f13e064f3d064f3b064f39064f36156c34064f33156c30064f2f06502e05dd2d08ec2c055d2b0de907]

/-- The rows of successors 192 to 255. -/
def gotos3 : Array Nat := #[
  0x10edc3135eb601b5b206507e065076065075065074065073055d6e0e1e5b051057064f55064f54064f52064f5115695006504f06504e06504d06504c156c4a0650480b5547065046055d45055d4406504305ee42064f4114f13e064f3d064f3b064f39064f36156c34064f33156c30064f2f06502e05dd2d08ee2c055d2b0de907,
  0x107cc3135eb6018cb208017e08017608017508017408017305396e0e1e5b05105707ff5507ff5407ff5207ff5113685008014f08014e08014d08014c14874a0801480b124708014605394505394408014307304207ff4114863e07ff3d07ff3b07ff3907ff3614873407ff3314873007ff2f08012e06ce2d07332c05392b0d3507,
  0x107cc3135eb6018cb208017e08017608017508017408017305396e0e1e5b05105707ff5507ff5407ff5207ff5108014f08014e08014d08014c14874a0801480b124708014605394505394408014307304207ff4114863e07ff3d07ff3b07ff3907ff3614873407ff3314873007ff2f08012e06ce2d06d52c05392b080c140d3507,
  0x10edc3135eb601b5b206507e065076065075065074065073055d6e0e1e5b051057064f55064f54064f52064f5114f45006504f06504e06504d06504c156c4a0650480b5547065046055d45055d4406504305ee42064f4114f13e064f3d064f3b064f39064f36156c34064f33156c30064f2f06502e05dd2d07092c055d2b0de907,
  0x10edc3135eb6023eb206507e109179065076065075065074065073056d6e0e1e5b051057064f55064f54064f52064f5106504f06504e06504d06504c15b84a0650480b5c47065046056d45056d4406504305ee42064f41157c3e064f3d064f3b064f39064f3615b834064f3315b830064f2f06502e05dd2d08192c056d2b0de907,
  0x10edc3135eb601f2b206507e06507606507506507406507305346e0e1e5b051057064f55064f54064f52064f5114bb5006504f06504e06504d06504c15af4a0650480b564706504605344505344406504305ee42064f41156b3e064f3d064f3b064f39064f3615af34064f3315af30064f2f06502e05dd2d08222c05342b0de907,
  0x107cc3135eb6018cb208017e08017608017508017408017305396e0e1e5b05105707ff5507ff5407ff5207ff5108014f08014e08014d08014c14874a0801480b124708014605394505394408014307304207ff4114863e07ff3d07ff3b07ff3907ff3614873407ff3314873007ff2f08012e06ce2d06d92c05392b0824140d3507,
  0x10edc3135eb601f2b206507e06507606507506507406507305346e0e1e5b051057064f55064f54064f52064f5114bf5006504f06504e06504d06504c15af4a0650480b564706504605344505344406504305ee42064f41156b3e064f3d064f3b064f39064f3615af34064f3315af30064f2f06502e05dd2d08282c05342b0de907,
  0x107cc3135eb6018cb208017e08017608017508017408017305396e0e1e5b05105707ff5507ff5407ff5207ff5108014f08014e08014d08014c14874a0801480b124708014605394505394408014307304207ff4114863e07ff3d07ff3b07ff3907ff3614873407ff3314873007ff2f08012e06ce2d06e72c05392b082a140d3507,
  0x10edc3135eb60270b214cbab06507e06507606507506507406507305a96e0e1e5b051057064f55064f54064f52064f5106504f06504e06504d06504c15bc4a0650480b624706504605a94505a94406504305ee42064f41158b3e064f3d064f3b064f39064f3615bc34064f3315bc30064f2f06502e05dd2d09c72c05a92b0de907,
  0x107cc3135eb6018cb208017e08017608017508017408017305396e0e1e5b05105707ff5507ff5407ff5207ff5108014f08014e08014d08014c14874a0801480b124708014605394505394408014307304207ff4114863e07ff3d07ff3b07ff3907ff3614873407ff3314873007ff2f08012e06ce2d06ea2c05392b083d140d3507,
  0x107cc3135eb6018cb208017e08017608017508017408017305396e0e1e5b05105707ff5507ff5407ff5207ff5108014f08014e08014d08014c14874a0801480b124708014605394505394408014307304207ff4114863e07ff3d07ff3b07ff3907ff3614873407ff3314873007ff2f08012e06ce2d06eb2c05392b083f140d3507,
  0x107cc3135eb6018cb208017e08017608017508017408017305396e0e1e5b05105707ff5507ff5407ff5207ff5108014f08014e08014d08014c14874a0801480b124708014605394505394408014307304207ff4114863e07ff3d07ff3b07ff3907ff3614873407ff3314873007ff2f08012e06ce2d06ec2c05392b0840140d3507,
  0x10edc3135eb601f2b206507e06507606507506507406507305346e0e1e5b051057064f55064f54064f52064f5114d05006504f06504e06504d06504c15af4a0650480b564706504605344505344406504305ee42064f41156b3e064f3d064f3b064f39064f3615af34064f3315af30064f2f06502e05dd2d084a2c05342b0de907,
  0x10edc3135eb601f2b206507e06507606507506507406507305346e0e1e5b051057064f55064f54064f52064f5114d35006504f06504e06504d06504c15af4a0650480b564706504605344505344406504305ee42064f41156b3e064f3d064f3b064f39064f3615af34064f3315af30064f2f06502e05dd2d08522c05342b0de907,
  0x10edc3135eb601b5b206507e065076065075065074065073055d6e0e1e5b051057064f55064f54064f52064f5114d45006504f06504e06504d06504c156c4a0650480b5547065046055d45055d4406504305ee42064f4114f13e064f3d064f3b064f39064f36156c34064f33156c30064f2f06502e05dd2d08532c055d2b0de907,
  0x10edc3135eb601b5b206507e065076065075065074065073055d6e0e1e5b051057064f55064f54064f52064f5114d55006504f06504e06504d06504c156c4a0650480b5547065046055d45055d4406504305ee42064f4114f13e064f3d064f3b064f39064f36156c34064f33156c30064f2f06502e05dd2d08542c055d2b0de907,
  0x10edc3135eb60270b214d8ab06507e06507606507506507406507305a96e0e1e5b051057064f55064f54064f52064f5106504f06504e06504d06504c15bc4a0650480b624706504605a94505a94406504305ee42064f41158b3e064f3d064f3b064f39064f3615bc34064f3315bc30064f2f06502e05dd2d09c72c05a92b0de907,
  0x10edc3135eb6023eb206507e116779065076065075065074065073056d6e0e1e5b051057064f55064f54064f52064f5106504f06504e06504d06504c15b84a0650480b5c47065046056d45056d4406504305ee42064f41157c3e064f3d064f3b064f39064f3615b834064f3315b830064f2f06502e05dd2d08192c056d2b0de907,
  0x10edc3135eb601b5b206507e065076065075065074065073055d6e0e1e5b051057064f55064f54064f52064f5114dc5006504f06504e06504d06504c156c4a0650480b5547065046055d45055d4406504305ee42064f4114f13e064f3d064f3b064f39064f36156c34064f33156c30064f2f06502e05dd2d086a2c055d2b0de907,
  0x10edc3135eb601b5b206507e065076065075065074065073055d6e0e1e5b051057064f55064f54064f52064f5114ec5006504f06504e06504d06504c156c4a0650480b5547065046055d45055d4406504305ee42064f4114f13e064f3d064f3b064f39064f36156c34064f33156c30064f2f06502e05dd2d08782c055d2b0de907,
  0x10edc3135eb601b5b206507e065076065075065074065073055d6e0e1e5b051057064f55064f54064f52064f5114ed5006504f06504e06504d06504c156c4a0650480b5547065046055d45055d4406504305ee42064f4114f13e064f3d064f3b064f39064f36156c34064f33156c30064f2f06502e05dd2d08792c055d2b0de907,
  0x10edc3135eb601b5b206507e065076065075065074065073055d6e0e1e5b051057064f55064f54064f52064f5114ee5006504f06504e06504d06504c156c4a0650480b5547065046055d45055d4406504305ee42064f4114f13e064f3d064f3b064f39064f36156c34064f33156c30064f2f06502e05dd2d087a2c055d2b0de907,
  0x10edc3135eb601b5b206507e065076065075065074065073055d6e0e1e5b051057064f55064f54064f52064f5106504f06504e06504d06504c156c4a0650480b5547065046055d45055d4406504305ee42064f4114f13e064f3d064f3b064f39064f36156c34064f33156c30064f2f06502e05dd2d07642c055d2b0656140de907,
  0x10edc3135eb601b5b206507e065076065075065074065073055d6e0e1e5b051057064f55064f54064f52064f5106504f06504e06504d06504c156c4a0650480b5547065046055d45055d4406504305ee42064f4114f13e064f3d064f3b064f39064f36156c34064f33156c30064f2f06502e05dd2d077e2c055d2b0660140de907,
  0x10edc3135eb601b5b206507e065076065075065074065073055d6e0e1e5b051057064f55064f54064f52064f5106504f06504e06504d06504c156c4a0650480b5547065046055d45055d4406504305ee42064f4114f13e064f3d064f3b064f39064f36156c34064f33156c30064f2f06502e05dd2d078b2c055d2b0664140de907,
  0x10edc3135eb601b5b206507e065076065075065074065073055d6e0e1e5b051057064f55064f54064f52064f5106504f06504e06504d06504c156c4a0650480b5547065046055d45055d4406504305ee42064f4114f13e064f3d064f3b064f39064f36156c34064f33156c30064f2f06502e05dd2d078d2c055d2b066c140de907,
  0x10edc3135eb601b5b206507e065076065075065074065073055d6e0e1e5b051057064f55064f54064f52064f5106504f06504e06504d06504c156c4a0650480b5547065046055d45055d4406504305ee42064f4114f13e064f3d064f3b064f39064f36156c34064f33156c30064f2f06502e05dd2d078e2c055d2b066e140de907,
  0x10edc3135eb601b5b206507e065076065075065074065073055d6e0e1e5b051057064f55064f54064f52064f5106504f06504e06504d06504c156c4a0650480b5547065046055d45055d4406504305ee42064f4114f13e064f3d064f3b064f39064f36156c34064f33156c30064f2f06502e05dd2d078f2c055d2b066f140de907,
  0x107cc3135eb601d9b208017e08017608017508017408017305756e0e1e5b05105707ff5507ff5407ff5207ff5108014f08014e08014d08014c15994a0801480b644708014605754505754408014307304207ff4115983e07ff3d07ff3b07ff3907ff3615993407ff3315993007ff2f08012e06ce2d08c32c05752b080c140d3507,
  0x10edc3135eb601b5b206507e065076065075065074065073055d6e0e1e5b051057064f55064f54064f52064f5115295006504f06504e06504d06504c156c4a0650480b5547065046055d45055d4406504305ee42064f4114f13e064f3d064f3b064f39064f36156c34064f33156c30064f2f06502e05dd2d070e2c055d2b0de907,
  0x107cc3135eb601d9b208017e08017608017508017408017305756e0e1e5b05105707ff5507ff5407ff5207ff5108014f08014e08014d08014c15994a0801480b644708014605754505754408014307304207ff4115983e07ff3d07ff3b07ff3907ff3615993407ff3315993007ff2f08012e06ce2d08c72c05752b0824140d3507,
  0x10edc3135eb601f2b206507e06507606507506507406507305346e0e1e5b051057064f55064f54064f52064f5115085006504f06504e06504d06504c15af4a0650480b564706504605344505344406504305ee42064f41156b3e064f3d064f3b064f39064f3615af34064f3315af30064f2f06502e05dd2d08cb2c05342b0de907,
  0x107cc3135eb601d9b208017e08017608017508017408017305756e0e1e5b05105707ff5507ff5407ff5207ff5108014f08014e08014d08014c15994a0801480b644708014605754505754408014307304207ff4115983e07ff3d07ff3b07ff3907ff3615993407ff3315993007ff2f08012e06ce2d08d62c05752b082a140d3507,
  0x107cc3135eb601d9b208017e08017608017508017408017305756e0e1e5b05105707ff5507ff5407ff5207ff5108014f08014e08014d08014c15994a0801480b644708014605754505754408014307304207ff4115983e07ff3d07ff3b07ff3907ff3615993407ff3315993007ff2f08012e06ce2d08d82c05752b083d140d3507,
  0x107cc3135eb601d9b208017e08017608017508017408017305756e0e1e5b05105707ff5507ff5407ff5207ff5108014f08014e08014d08014c15994a0801480b644708014605754505754408014307304207ff4115983e07ff3d07ff3b07ff3907ff3615993407ff3315993007ff2f08012e06ce2d08d92c05752b083f140d3507,
  0x107cc3135eb601d9b208017e08017608017508017408017305756e0e1e5b05105707ff5507ff5407ff5207ff5108014f08014e08014d08014c15994a0801480b644708014605754505754408014307304207ff4115983e07ff3d07ff3b07ff3907ff3615993407ff3315993007ff2f08012e06ce2d08da2c05752b0840140d3507,
  0x10edc3135eb601f2b206507e06507606507506507406507305346e0e1e5b051057064f55064f54064f52064f51150b5006504f06504e06504d06504c15af4a0650480b564706504605344505344406504305ee42064f41156b3e064f3d064f3b064f39064f3615af34064f3315af30064f2f06502e05dd2d08dd2c05342b0de907,
  0x10edc3135eb601f2b206507e06507606507506507406507305346e0e1e5b051057064f55064f54064f52064f5106504f06504e06504d06504c15af4a0650480b564706504605344505344406504305ee42064f41156b3e064f3d064f3b064f39064f3615af34064f3315af30064f2f06502e05dd2d06ad2c05342b0656140de907,
  0x10edc3135eb601f2b206507e06507606507506507406507305346e0e1e5b051057064f55064f54064f52064f5106504f06504e06504d06504c15af4a0650480b564706504605344505344406504305ee42064f41156b3e064f3d064f3b064f39064f3615af34064f3315af30064f2f06502e05dd2d06b12c05342b0660140de907,
  0x10edc3135eb601f2b206507e06507606507506507406507305346e0e1e5b051057064f55064f54064f52064f5106504f06504e06504d06504c15af4a0650480b564706504605344505344406504305ee42064f41156b3e064f3d064f3b064f39064f3615af34064f3315af30064f2f06502e05dd2d06be2c05342b0664140de907,
  0x10edc3135eb601f2b206507e06507606507506507406507305346e0e1e5b051057064f55064f54064f52064f5106504f06504e06504d06504c15af4a0650480b564706504605344505344406504305ee42064f41156b3e064f3d064f3b064f39064f3615af34064f3315af30064f2f06502e05dd2d06c02c05342b066c140de907,
  0x10edc3135eb601f2b206507e06507606507506507406507305346e0e1e5b051057064f55064f54064f52064f5106504f06504e06504d06504c15af4a0650480b564706504605344505344406504305ee42064f41156b3e064f3d064f3b064f39064f3615af34064f3315af30064f2f06502e05dd2d06c12c05342b066e140de907,
  0x10edc3135eb601f2b206507e06507606507506507406507305346e0e1e5b051057064f55064f54064f52064f5106504f06504e06504d06504c15af4a0650480b564706504605344505344406504305ee42064f41156b3e064f3d064f3b064f39064f3615af34064f3315af30064f2f06502e05dd2d06c22c05342b066f140de907,
  0x107cc3135eb6020db208017e08017608017508017408017305526e0e1e5b05105707ff5507ff5407ff5207ff5108014f08014e08014d08014c15b24a0801480b654708014605524505524408014307304207ff4115b13e07ff3d07ff3b07ff3907ff3615b23407ff3315b23007ff2f08012e06ce2d07112c05522b080c140d3507,
  0x107cc3135eb6020db208017e08017608017508017408017305526e0e1e5b05105707ff5507ff5407ff5207ff5108014f08014e08014d08014c15b24a0801480b654708014605524505524408014307304207ff4115b13e07ff3d07ff3b07ff3907ff3615b23407ff3315b23007ff2f08012e06ce2d07152c05522b0824140d3507,
  0x107cc3135eb6020db208017e08017608017508017408017305526e0e1e5b05105707ff5507ff5407ff5207ff5108014f08014e08014d08014c15b24a0801480b654708014605524505524408014307304207ff4115b13e07ff3d07ff3b07ff3907ff3615b23407ff3315b23007ff2f08012e06ce2d07222c05522b082a140d3507,
  0x107cc3135eb6020db208017e08017608017508017408017305526e0e1e5b05105707ff5507ff5407ff5207ff5108014f08014e08014d08014c15b24a0801480b654708014605524505524408014307304207ff4115b13e07ff3d07ff3b07ff3907ff3615b23407ff3315b23007ff2f08012e06ce2d07242c05522b083d140d3507,
  0x107cc3135eb6020db208017e08017608017508017408017305526e0e1e5b05105707ff5507ff5407ff5207ff5108014f08014e08014d08014c15b24a0801480b654708014605524505524408014307304207ff4115b13e07ff3d07ff3b07ff3907ff3615b23407ff3315b23007ff2f08012e06ce2d07252c05522b083f140d3507,
  0x107cc3135eb6020db208017e08017608017508017408017305526e0e1e5b05105707ff5507ff5407ff5207ff5108014f08014e08014d08014c15b24a0801480b654708014605524505524408014307304207ff4115b13e07ff3d07ff3b07ff3907ff3615b23407ff3315b23007ff2f08012e06ce2d07262c05522b0840140d3507,
  0x10edc3135eb60224b206507e06507606507506507406507304c56e0e1e5b051057064f55064f54064f52064f5106504f06504e06504d06504c14f24a0650480b5b4706504604c54504c54406504305ee42064f4115743e064f3d064f3b064f39064f3614f234064f3314f230064f2f06502e05dd2d09c92c04c52b0656140de907,
  0x10edc3135eb60224b206507e06507606507506507406507304c56e0e1e5b051057064f55064f54064f52064f5106504f06504e06504d06504c14f24a0650480b5b4706504604c54504c54406504305ee42064f4115743e064f3d064f3b064f39064f3614f234064f3314f230064f2f06502e05dd2d09cd2c04c52b0660140de907,
  0x10edc3135eb60224b206507e06507606507506507406507304c56e0e1e5b051057064f55064f54064f52064f5106504f06504e06504d06504c14f24a0650480b5b4706504604c54504c54406504305ee42064f4115743e064f3d064f3b064f39064f3614f234064f3314f230064f2f06502e05dd2d09da2c04c52b0664140de907,
  0x10edc3135eb60224b206507e06507606507506507406507304c56e0e1e5b051057064f55064f54064f52064f5106504f06504e06504d06504c14f24a0650480b5b4706504604c54504c54406504305ee42064f4115743e064f3d064f3b064f39064f3614f234064f3314f230064f2f06502e05dd2d09dc2c04c52b066c140de907,
  0x10edc3135eb60224b206507e06507606507506507406507304c56e0e1e5b051057064f55064f54064f52064f5106504f06504e06504d06504c14f24a0650480b5b4706504604c54504c54406504305ee42064f4115743e064f3d064f3b064f39064f3614f234064f3314f230064f2f06502e05dd2d09dd2c04c52b066e140de907,
  0x10edc3135eb60224b206507e06507606507506507406507304c56e0e1e5b051057064f55064f54064f52064f5106504f06504e06504d06504c14f24a0650480b5b4706504604c54504c54406504305ee42064f4115743e064f3d064f3b064f39064f3614f234064f3314f230064f2f06502e05dd2d09de2c04c52b066f140de907,
  0x10edc3135eb6023eb206507e065076065075065074065073056d6e0e1e5b051057064f55064f54064f52064f5106504f06504e06504d06504c15b84a0650480b5c47065046056d45056d4406504305ee42064f41157c3e064f3d064f3b064f39064f3615b834064f3315b830064f2f06502e05dd2d07e12c056d2b0656140de907,
  0x10edc3135eb6023eb206507e065076065075065074065073056d6e0e1e5b051057064f55064f54064f52064f5106504f06504e06504d06504c15b84a0650480b5c47065046056d45056d4406504305ee42064f41157c3e064f3d064f3b064f39064f3615b834064f3315b830064f2f06502e05dd2d07e52c056d2b0660140de907,
  0x10edc3135eb6023eb206507e065076065075065074065073056d6e0e1e5b051057064f55064f54064f52064f5106504f06504e06504d06504c15b84a0650480b5c47065046056d45056d4406504305ee42064f41157c3e064f3d064f3b064f39064f3615b834064f3315b830064f2f06502e05dd2d07f22c056d2b0664140de907,
  0x10edc3135eb6023eb206507e065076065075065074065073056d6e0e1e5b051057064f55064f54064f52064f5106504f06504e06504d06504c15b84a0650480b5c47065046056d45056d4406504305ee42064f41157c3e064f3d064f3b064f39064f3615b834064f3315b830064f2f06502e05dd2d07f42c056d2b066c140de907,
  0x10edc3135eb6023eb206507e065076065075065074065073056d6e0e1e5b051057064f55064f54064f52064f5106504f06504e06504d06504c15b84a0650480b5c47065046056d45056d4406504305ee42064f41157c3e064f3d064f3b064f39064f3615b834064f3315b830064f2f06502e05dd2d07f52c056d2b066e140de907,
  0x10edc3135eb6023eb206507e065076065075065074065073056d6e0e1e5b051057064f55064f54064f52064f5106504f06504e06504d06504c15b84a0650480b5c47065046056d45056d4406504305ee42064f41157c3e064f3d064f3b064f39064f3615b834064f3315b830064f2f06502e05dd2d07f62c056d2b066f140de907,
  0x10edc3135eb60257b206507e06507606507506507406507305a86e0e1e5b051057064f55064f54064f52064f5106504f06504e06504d06504c15ba4a0650480b614706504605a84505a84406504305ee42064f4115843e064f3d064f3b064f39064f3615ba34064f3315ba30064f2f06502e05dd2d093b2c05a82b0656140de907,
  0x10edc3135eb60257b206507e06507606507506507406507305a86e0e1e5b051057064f55064f54064f52064f5106504f06504e06504d06504c15ba4a0650480b614706504605a84505a84406504305ee42064f4115843e064f3d064f3b064f39064f3615ba34064f3315ba30064f2f06502e05dd2d093f2c05a82b0660140de907]

/-- The rows of successors 256 to 319. -/
def gotos4 : Array Nat := #[
  0x10edc3135eb60257b206507e06507606507506507406507305a86e0e1e5b051057064f55064f54064f52064f5106504f06504e06504d06504c15ba4a0650480b614706504605a84505a84406504305ee42064f4115843e064f3d064f3b064f39064f3615ba34064f3315ba30064f2f06502e05dd2d094c2c05a82b0664140de907,
  0x10edc3135eb60257b206507e06507606507506507406507305a86e0e1e5b051057064f55064f54064f52064f5106504f06504e06504d06504c15ba4a0650480b614706504605a84505a84406504305ee42064f4115843e064f3d064f3b064f39064f3615ba34064f3315ba30064f2f06502e05dd2d094e2c05a82b066c140de907,
  0x10edc3135eb60257b206507e06507606507506507406507305a86e0e1e5b051057064f55064f54064f52064f5106504f06504e06504d06504c15ba4a0650480b614706504605a84505a84406504305ee42064f4115843e064f3d064f3b064f39064f3615ba34064f3315ba30064f2f06502e05dd2d094f2c05a82b066e140de907,
  0x10edc3135eb60257b206507e06507606507506507406507305a86e0e1e5b051057064f55064f54064f52064f5106504f06504e06504d06504c15ba4a0650480b614706504605a84505a84406504305ee42064f4115843e064f3d064f3b064f39064f3615ba34064f3315ba30064f2f06502e05dd2d09502c05a82b066f140de907,
  0x10edc3135eb60270b206507e06507606507506507406507305a96e0e1e5b051057064f55064f54064f52064f5106504f06504e06504d06504c15bc4a0650480b624706504605a94505a94406504305ee42064f41158b3e064f3d064f3b064f39064f3615bc34064f3315bc30064f2f06502e05dd2d09552c05a92b0656140de907,
  0x10edc3135eb60270b206507e06507606507506507406507305a96e0e1e5b051057064f55064f54064f52064f5106504f06504e06504d06504c15bc4a0650480b624706504605a94505a94406504305ee42064f41158b3e064f3d064f3b064f39064f3615bc34064f3315bc30064f2f06502e05dd2d09592c05a92b0660140de907,
  0x10edc3135eb60270b206507e06507606507506507406507305a96e0e1e5b051057064f55064f54064f52064f5106504f06504e06504d06504c15bc4a0650480b624706504605a94505a94406504305ee42064f41158b3e064f3d064f3b064f39064f3615bc34064f3315bc30064f2f06502e05dd2d09662c05a92b0664140de907,
  0x10edc3135eb60270b206507e06507606507506507406507305a96e0e1e5b051057064f55064f54064f52064f5106504f06504e06504d06504c15bc4a0650480b624706504605a94505a94406504305ee42064f41158b3e064f3d064f3b064f39064f3615bc34064f3315bc30064f2f06502e05dd2d09682c05a92b066c140de907,
  0x10edc3135eb60270b206507e06507606507506507406507305a96e0e1e5b051057064f55064f54064f52064f5106504f06504e06504d06504c15bc4a0650480b624706504605a94505a94406504305ee42064f41158b3e064f3d064f3b064f39064f3615bc34064f3315bc30064f2f06502e05dd2d09692c05a92b066e140de907,
  0x10edc3135eb60270b206507e06507606507506507406507305a96e0e1e5b051057064f55064f54064f52064f5106504f06504e06504d06504c15bc4a0650480b624706504605a94505a94406504305ee42064f41158b3e064f3d064f3b064f39064f3615bc34064f3315bc30064f2f06502e05dd2d096a2c05a92b066f140de907,
  0x10edc3135eb60288b206507e06507606507506507406507305ab6e0e1e5b051057064f55064f54064f52064f5106504f06504e06504d06504c15bd4a0650480b634706504605ab4505ab4406504305ee42064f4115913e064f3d064f3b064f39064f3615bd34064f3315bd30064f2f06502e05dd2d097b2c05ab2b0656140de907,
  0x10edc3135eb60288b206507e06507606507506507406507305ab6e0e1e5b051057064f55064f54064f52064f5106504f06504e06504d06504c15bd4a0650480b634706504605ab4505ab4406504305ee42064f4115913e064f3d064f3b064f39064f3615bd34064f3315bd30064f2f06502e05dd2d097f2c05ab2b0660140de907,
  0x10edc3135eb60288b206507e06507606507506507406507305ab6e0e1e5b051057064f55064f54064f52064f5106504f06504e06504d06504c15bd4a0650480b634706504605ab4505ab4406504305ee42064f4115913e064f3d064f3b064f39064f3615bd34064f3315bd30064f2f06502e05dd2d098c2c05ab2b0664140de907,
  0x10edc3135eb60288b206507e06507606507506507406507305ab6e0e1e5b051057064f55064f54064f52064f5106504f06504e06504d06504c15bd4a0650480b634706504605ab4505ab4406504305ee42064f4115913e064f3d064f3b064f39064f3615bd34064f3315bd30064f2f06502e05dd2d098e2c05ab2b066c140de907,
  0x10edc3135eb60288b206507e06507606507506507406507305ab6e0e1e5b051057064f55064f54064f52064f5106504f06504e06504d06504c15bd4a0650480b634706504605ab4505ab4406504305ee42064f4115913e064f3d064f3b064f39064f3615bd34064f3315bd30064f2f06502e05dd2d098f2c05ab2b066e140de907,
  0x10edc3135eb60288b206507e06507606507506507406507305ab6e0e1e5b051057064f55064f54064f52064f5106504f06504e06504d06504c15bd4a0650480b634706504605ab4505ab4406504305ee42064f4115913e064f3d064f3b064f39064f3615bd34064f3315bd30064f2f06502e05dd2d09902c05ab2b066f140de907,
  0x107cc3135eb6018cb208017e08017608017508017408017305396e0e1e5b05105707ff5507ff5407ff5207ff5108014f08014e08014d08014c14874a0801480b124708014605394505394408014307304207ff4114863e07ff3d07ff3b07ff3907ff3614873407ff3314873007ff2f08012e06ce2d06d12c05392b0d3507,
  0x10edc3135eb60224b206507e06507606507506507406507305ac6e0e1e5b051057064f55064f54064f52064f5106504f06504e06504d06504c14984a0650480b5b4706504605ac4505ac4406504305ee42064f4115743e064f3d064f3b064f39064f36149834064f33149830064f2f06502e05dd2d0a112c05ac2b0de907,
  0x107cc3135eb6018cb208017e08017608017508017408017305396e0e1e5b05105707ff5507ff5407ff5207ff5108014f08014e08014d08014c14874a0801480b124708014605394505394408014307304207ff4114863e07ff3d07ff3b07ff3907ff3614873407ff3314873007ff2f08012e06ce2d06d32c05392b0d3507,
  0x107cc3135eb6018cb208017e08017608017508017408017305396e0e1e5b05105707ff5507ff5407ff5207ff5108014f08014e08014d08014c14874a0801480b124708014605394505394408014307304207ff4114863e07ff3d07ff3b07ff3907ff3614873407ff3314873007ff2f08012e06ce2d06d42c05392b0d3507,
  0x107cc3135eb6018cb208017e08017608017508017408017305396e0e1e5b05105707ff5507ff5407ff5207ff5108014f08014e08014d08014c14874a0801480b124708014605394505394408014307304207ff4114863e07ff3d07ff3b07ff3907ff3614873407ff3314873007ff2f08012e06ce2d080b2c05392b0d3507,
  0x107cc3135eb6018cb208017e08017608017508017408017305396e0e1e5b05105707ff5507ff5407ff5207ff5108014f08014e08014d08014c14874a0801480b124708014605394505394408014307304207ff4114863e07ff3d07ff3b07ff3907ff3614873407ff3314873007ff2f08012e06ce2d06d62c05392b0d3507,
  0x1121c91120c80eb1c303248703248403248203248003267e03247d03247c03247b03247105105703243c03243a032437032412032411032506107a03136002,
  0x10edc3135eb601f2b206507e065076065075065074065073053d6e0e1e5b051057064f55064f54064f52064f5106504f06504e06504d06504c0eba4a0650480b5647065046053d45053d4406504305ee42064f41156b3e064f3d064f3b064f39064f360eba34064f330eba30064f2f06502e05dd2d080e2c05342b0de907,
  0x10edc3135eb60224b206507e06507606507506507406507304f96e0e1e5b051057064f55064f54064f52064f5106504f06504e06504d06504c0e164a0650480b5b4706504604f94504f94406504305ee42064f4115743e064f3d064f3b064f39064f360e1634064f330e1630064f2f06502e05dd2d0a112c04c52b0de907,
  0x107cc3135eb6018cb208017e08017608017508017408017305396e0e1e5b05105707ff5507ff5407ff5207ff5108014f08014e08014d08014c14874a0801480b124708014605394505394408014307304207ff4114863e07ff3d07ff3b07ff3907ff3614873407ff3314873007ff2f08012e06ce2d06d72c05392b0d3507,
  0x107cc3135eb6018cb208017e08017608017508017408017305396e0e1e5b05105707ff5507ff5407ff5207ff5108014f08014e08014d08014c14874a0801480b124708014605394505394408014307304207ff4114863e07ff3d07ff3b07ff3907ff3614873407ff3314873007ff2f08012e06ce2d06d82c05392b0d3507,
  0x107cc3135eb6018cb208017e08017608017508017408017305396e0e1e5b05105707ff5507ff5407ff5207ff5108014f08014e08014d08014c14874a0801480b124708014605394505394408014307304207ff4114863e07ff3d07ff3b07ff3907ff3614873407ff3314873007ff2f08012e06ce2d06da2c05392b0d3507,
  0x10edc3135eb60257b206507e06507606507506507406507305a86e0e1e5b051057064f55064f54064f52064f5106504f06504e06504d06504c15ba4a0650480b614706504605a84505a84406504305ee42064f4115843e064f3d064f3b064f39064f3615ba34064f3315ba30064f2f06502e05dd2d099d2c05a82b0de907,
  0x107cc3135eb6018cb208017e08017608017508017408017305396e0e1e5b05105707ff5507ff5407ff5207ff5108014f08014e08014d08014c14874a0801480b124708014605394505394408014307304207ff4114863e07ff3d07ff3b07ff3907ff3614873407ff3314873007ff2f08012e06ce2d06dc2c05392b0d3507,
  0x107cc3135eb6018cb208017e08017608017508017408017305396e0e1e5b05105707ff5507ff5407ff5207ff5108014f08014e08014d08014c14874a0801480b124708014605394505394408014307304207ff4114863e07ff3d07ff3b07ff3907ff3614873407ff3314873007ff2f08012e06ce2d08272c05392b0d3507,
  0x107cc3135eb6018cb208017e08017608017508017408017305396e0e1e5b05105707ff5507ff5407ff5207ff5108014f08014e08014d08014c14874a0801480b124708014605394505394408014307304207ff4114863e07ff3d07ff3b07ff3907ff3614873407ff3314873007ff2f08012e06ce2d06dd2c05392b0d3507,
  0x107cc3135eb6018cb208017e08017608017508017408017305396e0e1e5b05105707ff5507ff5407ff5207ff5108014f08014e08014d08014c14874a0801480b124708014605394505394408014307304207ff4114863e07ff3d07ff3b07ff3907ff3614873407ff3314873007ff2f08012e06ce2d06de2c05392b0d3507,
  0x107cc3135eb6018cb208017e08017608017508017408017305396e0e1e5b05105707ff5507ff5407ff5207ff5108014f08014e08014d08014c14874a0801480b124708014605394505394408014307304207ff4114863e07ff3d07ff3b07ff3907ff3614873407ff3314873007ff2f08012e06ce2d06df2c05392b0d3507,
  0x107cc3135eb6018cb208017e08017608017508017408017305396e0e1e5b05105707ff5507ff5407ff5207ff5108014f08014e08014d08014c14874a0801480b124708014605394505394408014307304207ff4114863e07ff3d07ff3b07ff3907ff3614873407ff3314873007ff2f08012e06ce2d06e02c05392b0d3507,
  0x107cc3135eb6018cb208017e08017608017508017408017305396e0e1e5b05105707ff5507ff5407ff5207ff5108014f08014e08014d08014c14874a0801480b124708014605394505394408014307304207ff4114863e07ff3d07ff3b07ff3907ff3614873407ff3314873007ff2f08012e06ce2d06e12c05392b0d3507,
  0x107cc3135eb6018cb208017e08017608017508017408017305396e0e1e5b05105707ff5507ff5407ff5207ff5108014f08014e08014d08014c14874a0801480b124708014605394505394408014307304207ff4114863e07ff3d07ff3b07ff3907ff3614873407ff3314873007ff2f08012e06ce2d06e22c05392b0d3507,
  0x107cc3135eb6018cb208017e08017608017508017408017305396e0e1e5b05105707ff5507ff5407ff5207ff5108014f08014e08014d08014c14874a0801480b124708014605394505394408014307304207ff4114863e07ff3d07ff3b07ff3907ff3614873407ff3314873007ff2f08012e06ce2d06e32c05392b0d3507,
  0x107cc3135eb6018cb208017e08017608017508017408017305396e0e1e5b05105707ff5507ff5407ff5207ff5108014f08014e08014d08014c14874a0801480b124708014605394505394408014307304207ff4114863e07ff3d07ff3b07ff3907ff3614873407ff3314873007ff2f08012e06ce2d06e42c05392b0d3507,
  0x107cc3135eb6018cb208017e08017608017508017408017305396e0e1e5b05105707ff5507ff5407ff5207ff5108014f08014e08014d08014c14874a0801480b124708014605394505394408014307304207ff4114863e07ff3d07ff3b07ff3907ff3614873407ff3314873007ff2f08012e06ce2d06e52c05392b0d3507,
  0x107cc3135eb6018cb208017e08017608017508017408017305396e0e1e5b05105707ff5507ff5407ff5207ff5108014f08014e08014d08014c14874a0801480b124708014605394505394408014307304207ff4114863e07ff3d07ff3b07ff3907ff3614873407ff3314873007ff2f08012e06ce2d06e62c05392b0d3507,
  0x107cc3135eb6018cb208017e08017608017508017408017305396e0e1e5b05105707ff5507ff5407ff5207ff5108014f08014e08014d08014c14874a0801480b124708014605394505394408014307304207ff4114863e07ff3d07ff3b07ff3907ff3614873407ff3314873007ff2f08012e06ce2d06e82c05392b0d3507,
  0x107cc3135eb6018cb208017e08017608017508017408017305396e0e1e5b05105707ff5507ff5407ff5207ff5108014f08014e08014d08014c14874a0801480b124708014605394505394408014307304207ff4114863e07ff3d07ff3b07ff3907ff3614873407ff3314873007ff2f08012e06ce2d07442c05392b0d3507,
  0x10edc3135eb60270b206507e06507606507506507406507305a96e0e1e5b051057064f55064f54064f52064f5106504f06504e06504d06504c15bc4a0650480b624706504605a94505a94406504305ee42064f41158b3e064f3d064f3b064f39064f3615bc34064f3315bc30064f2f06502e05dd2d099e2c05a92b0de907,
  0x107cc3135eb6018cb208017e08017608017508017408017305396e0e1e5b05105707ff5507ff5407ff5207ff5108014f08014e08014d08014c14874a0801480b124708014605394505394408014307304207ff4114863e07ff3d07ff3b07ff3907ff3614873407ff3314873007ff2f08012e06ce2d07452c05392b0d3507,
  0x107cc3135eb6018cb208017e08017608017508017408017305396e0e1e5b05105707ff5507ff5407ff5207ff5108014f08014e08014d08014c14874a0801480b124708014605394505394408014307304207ff4114863e07ff3d07ff3b07ff3907ff3614873407ff3314873007ff2f08012e06ce2d07462c05392b0d3507,
  0x107cc3135eb6018cb208017e08017608017508017408017305396e0e1e5b05105707ff5507ff5407ff5207ff5108014f08014e08014d08014c14874a0801480b124708014605394505394408014307304207ff4114863e07ff3d07ff3b07ff3907ff3614873407ff3314873007ff2f08012e06ce2d07472c05392b0d3507,
  0x107cc3135eb6018cb208017e08017608017508017408017305396e0e1e5b05105707ff5507ff5407ff5207ff5108014f08014e08014d08014c14874a0801480b124708014605394505394408014307304207ff4114863e07ff3d07ff3b07ff3907ff3614873407ff3314873007ff2f08012e06ce2d08312c05392b0d3507,
  0x10edc3135eb601f2b206507e06507606507506507406507305346e0e1e5b051057064f55064f54064f52064f5106504f06504e06504d06504c15af4a0650480b564706504605344505344406504305ee42064f41156b3e064f3d064f3b064f39064f3615af34064f3315af30064f2f06502e05dd2d08382c05342b0de907,
  0x107cc3135eb6018cb208017e08017608017508017408017305396e0e1e5b05105707ff5507ff5407ff5207ff5108014f08014e08014d08014c14874a0801480b124708014605394505394408014307304207ff4114863e07ff3d07ff3b07ff3907ff3614873407ff3314873007ff2f08012e06ce2d06ed2c05392b0d3507,
  0x107cc3135eb6018cb208017e08017608017508017408017305396e0e1e5b05105707ff5507ff5407ff5207ff5108014f08014e08014d08014c14874a0801480b124708014605394505394408014307304207ff4114863e07ff3d07ff3b07ff3907ff3614873407ff3314873007ff2f08012e06ce2d06ee2c05392b0d3507,
  0x10edc3135eb601b5b206507e065076065075065074065073055d6e0e1e5b051057064f55064f54064f52064f5106504f06504e06504d06504c156c4a0650480b5547065046055d45055d4406504305ee42064f4114f13e064f3d064f3b064f39064f36156c34064f33156c30064f2f06502e05dd2d096e2c055d2b0de907,
  0x10edc3135eb601f2b206507e06507606507506507406507305346e0e1e5b051057064f55064f54064f52064f5106504f06504e06504d06504c15af4a0650480b564706504605344505344406504305ee42064f41156b3e064f3d064f3b064f39064f3615af34064f3315af30064f2f06502e05dd2d09042c05342b0de907,
  0x10edc3135eb601f2b206507e06507606507506507406507305346e0e1e5b051057064f55064f54064f52064f5106504f06504e06504d06504c15af4a0650480b564706504605344505344406504305ee42064f41156b3e064f3d064f3b064f39064f3615af34064f3315af30064f2f06502e05dd2d09052c05342b0de907,
  0x107cc3135eb601d9b208017e08017608017508017408017305756e0e1e5b05105707ff5507ff5407ff5207ff5108014f08014e08014d08014c15994a0801480b644708014605754505754408014307304207ff4115983e07ff3d07ff3b07ff3907ff3615993407ff3315993007ff2f08012e06ce2d09082c05752b0d3507,
  0x107cc3135eb6018cb208017e08017608017508017408017305396e0e1e5b05105707ff5507ff5407ff5207ff5108014f08014e08014d08014c14874a0801480b124708014605394505394408014307304207ff4114863e07ff3d07ff3b07ff3907ff3614873407ff3314873007ff2f08012e06ce2d06f42c05392b0d3507,
  0x10edc3135eb601f2b206507e06507606507506507406507305346e0e1e5b051057064f55064f54064f52064f5106504f06504e06504d06504c15af4a0650480b564706504605344505344406504305ee42064f41156b3e064f3d064f3b064f39064f3615af34064f3315af30064f2f06502e05dd2d08ff2c05342b0de907,
  0x107cc3135eb6018cb208017e08017608017508017408017305396e0e1e5b05105707ff5507ff5407ff5207ff5108014f08014e08014d08014c14874a0801480b124708014605394505394408014307304207ff4114863e07ff3d07ff3b07ff3907ff3614873407ff3314873007ff2f08012e06ce2d07552c05392b0d3507,
  0x10edc3135eb601b5b206507e065076065075065074065073055d6e0e1e5b051057064f55064f54064f52064f5106504f06504e06504d06504c156c4a0650480b5547065046055d45055d4406504305ee42064f4114f13e064f3d064f3b064f39064f36156c34064f33156c30064f2f06502e05dd2d07622c055d2b0de907,
  0x10edc3135eb601b5b206507e065076065075065074065073055d6e0e1e5b051057064f55064f54064f52064f5106504f06504e06504d06504c156c4a0650480b5547065046055d45055d4406504305ee42064f4114f13e064f3d064f3b064f39064f36156c34064f33156c30064f2f06502e05dd2d07632c055d2b0de907,
  0x10edc3135eb601b5b206507e065076065075065074065073055d6e0e1e5b051057064f55064f54064f52064f5106504f06504e06504d06504c156c4a0650480b5547065046055d45055d4406504305ee42064f4114f13e064f3d064f3b064f39064f36156c34064f33156c30064f2f06502e05dd2d07652c055d2b0de907,
  0x10edc3135eb601b5b206507e065076065075065074065073055d6e0e1e5b051057064f55064f54064f52064f5106504f06504e06504d06504c156c4a0650480b5547065046055d45055d4406504305ee42064f4114f13e064f3d064f3b064f39064f36156c34064f33156c30064f2f06502e05dd2d07672c055d2b0de907,
  0x10edc3135eb601b5b206507e065076065075065074065073055d6e0e1e5b051057064f55064f54064f52064f5106504f06504e06504d06504c156c4a0650480b5547065046055d45055d4406504305ee42064f4114f13e064f3d064f3b064f39064f36156c34064f33156c30064f2f06502e05dd2d077d2c055d2b0de907,
  0x10edc3135eb601b5b206507e065076065075065074065073055d6e0e1e5b051057064f55064f54064f52064f5106504f06504e06504d06504c156c4a0650480b5547065046055d45055d4406504305ee42064f4114f13e064f3d064f3b064f39064f36156c34064f33156c30064f2f06502e05dd2d077f2c055d2b0de907]

/-- The rows of successors 320 to 383. -/
def gotos5 : Array Nat := #[
  0x10edc3135eb601b5b206507e065076065075065074065073055d6e0e1e5b051057064f55064f54064f52064f5106504f06504e06504d06504c156c4a0650480b5547065046055d45055d4406504305ee42064f4114f13e064f3d064f3b064f39064f36156c34064f33156c30064f2f06502e05dd2d07802c055d2b0de907,
  0x10edc3135eb601b5b206507e065076065075065074065073055d6e0e1e5b051057064f55064f54064f52064f5106504f06504e06504d06504c156c4a0650480b5547065046055d45055d4406504305ee42064f4114f13e064f3d064f3b064f39064f36156c34064f33156c30064f2f06502e05dd2d090e2c055d2b0de907,
  0x10edc3135eb601b5b206507e065076065075065074065073055d6e0e1e5b051057064f55064f54064f52064f5106504f06504e06504d06504c156c4a0650480b5547065046055d45055d4406504305ee42064f4114f13e064f3d064f3b064f39064f36156c34064f33156c30064f2f06502e05dd2d07812c055d2b0de907,
  0x10edc3135eb601b5b206507e065076065075065074065073055d6e0e1e5b051057064f55064f54064f52064f5106504f06504e06504d06504c156c4a0650480b5547065046055d45055d4406504305ee42064f4114f13e064f3d064f3b064f39064f36156c34064f33156c30064f2f06502e05dd2d07822c055d2b0de907,
  0x10edc3135eb601b5b206507e065076065075065074065073055d6e0e1e5b051057064f55064f54064f52064f5106504f06504e06504d06504c156c4a0650480b5547065046055d45055d4406504305ee42064f4114f13e064f3d064f3b064f39064f36156c34064f33156c30064f2f06502e05dd2d07832c055d2b0de907,
  0x10edc3135eb601b5b206507e065076065075065074065073055d6e0e1e5b051057064f55064f54064f52064f5106504f06504e06504d06504c156c4a0650480b5547065046055d45055d4406504305ee42064f4114f13e064f3d064f3b064f39064f36156c34064f33156c30064f2f06502e05dd2d07842c055d2b0de907,
  0x10edc3135eb601b5b206507e065076065075065074065073055d6e0e1e5b051057064f55064f54064f52064f5106504f06504e06504d06504c156c4a0650480b5547065046055d45055d4406504305ee42064f4114f13e064f3d064f3b064f39064f36156c34064f33156c30064f2f06502e05dd2d07852c055d2b0de907,
  0x10edc3135eb601b5b206507e065076065075065074065073055d6e0e1e5b051057064f55064f54064f52064f5106504f06504e06504d06504c156c4a0650480b5547065046055d45055d4406504305ee42064f4114f13e064f3d064f3b064f39064f36156c34064f33156c30064f2f06502e05dd2d07862c055d2b0de907,
  0x10edc3135eb601b5b206507e065076065075065074065073055d6e0e1e5b051057064f55064f54064f52064f5106504f06504e06504d06504c156c4a0650480b5547065046055d45055d4406504305ee42064f4114f13e064f3d064f3b064f39064f36156c34064f33156c30064f2f06502e05dd2d07872c055d2b0de907,
  0x10edc3135eb601b5b206507e065076065075065074065073055d6e0e1e5b051057064f55064f54064f52064f5106504f06504e06504d06504c156c4a0650480b5547065046055d45055d4406504305ee42064f4114f13e064f3d064f3b064f39064f36156c34064f33156c30064f2f06502e05dd2d07882c055d2b0de907,
  0x10edc3135eb601b5b206507e065076065075065074065073055d6e0e1e5b051057064f55064f54064f52064f5106504f06504e06504d06504c156c4a0650480b5547065046055d45055d4406504305ee42064f4114f13e064f3d064f3b064f39064f36156c34064f33156c30064f2f06502e05dd2d07892c055d2b0de907,
  0x10edc3135eb601b5b206507e065076065075065074065073055d6e0e1e5b051057064f55064f54064f52064f5106504f06504e06504d06504c156c4a0650480b5547065046055d45055d4406504305ee42064f4114f13e064f3d064f3b064f39064f36156c34064f33156c30064f2f06502e05dd2d078a2c055d2b0de907,
  0x10edc3135eb601b5b206507e065076065075065074065073055d6e0e1e5b051057064f55064f54064f52064f5106504f06504e06504d06504c156c4a0650480b5547065046055d45055d4406504305ee42064f4114f13e064f3d064f3b064f39064f36156c34064f33156c30064f2f06502e05dd2d078c2c055d2b0de907,
  0x10edc3135eb601b5b206507e065076065075065074065073055d6e0e1e5b051057064f55064f54064f52064f5106504f06504e06504d06504c156c4a0650480b5547065046055d45055d4406504305ee42064f4114f13e064f3d064f3b064f39064f36156c34064f33156c30064f2f06502e05dd2d09102c055d2b0de907,
  0x10edc3135eb601b5b206507e065076065075065074065073055d6e0e1e5b051057064f55064f54064f52064f5106504f06504e06504d06504c156c4a0650480b5547065046055d45055d4406504305ee42064f4114f13e064f3d064f3b064f39064f36156c34064f33156c30064f2f06502e05dd2d07902c055d2b0de907,
  0x10edc3135eb601b5b206507e065076065075065074065073055d6e0e1e5b051057064f55064f54064f52064f5106504f06504e06504d06504c156c4a0650480b5547065046055d45055d4406504305ee42064f4114f13e064f3d064f3b064f39064f36156c34064f33156c30064f2f06502e05dd2d07912c055d2b0de907,
  0x10edc3135eb601b5b206507e065076065075065074065073055d6e0e1e5b051057064f55064f54064f52064f5106504f06504e06504d06504c156c4a0650480b5547065046055d45055d4406504305ee42064f4114f13e064f3d064f3b064f39064f36156c34064f33156c30064f2f06502e05dd2d07bf2c055d2b0de907,
  0x10edc3135eb601b5b206507e065076065075065074065073055d6e0e1e5b051057064f55064f54064f52064f5106504f06504e06504d06504c156c4a0650480b5547065046055d45055d4406504305ee42064f4114f13e064f3d064f3b064f39064f36156c34064f33156c30064f2f06502e05dd2d07582c055d2b0de907,
  0x1121c91306c80eb1c303248703248403248203248003267e03247d03247c03247b03247105105703243c03243a032437032412032411032506107a03136002,
  0x107cc3135eb6020db208017e08017608017508017408017305526e0e1e5b05105707ff5507ff5407ff5207ff5108014f08014e08014d08014c15b24a0801480b654708014605524505524408014307304207ff4115b13e07ff3d07ff3b07ff3907ff3615b23407ff3315b23007ff2f08012e06ce2d07c92c05522b0d3507,
  0x10edc3135eb60288b206507e06507606507506507406507305ab6e0e1e5b051057064f55064f54064f52064f5106504f06504e06504d06504c15bd4a0650480b634706504605ab4505ab4406504305ee42064f4115913e064f3d064f3b064f39064f3615bd34064f3315bd30064f2f06502e05dd2d09b92c05ab2b0de907,
  0x10edc3135eb60224b206507e06507606507506507406507305ad6e0e1e5b051057064f55064f54064f52064f5106504f06504e06504d06504c14f94a0650480b5b4706504605ad4505ad4406504305ee42064f4115743e064f3d064f3b064f39064f3614f934064f3314f930064f2f06502e05dd2d0a112c05ad2b0de907,
  0x107cc3135eb6020db208017e08017608017508017408017305526e0e1e5b05105707ff5507ff5407ff5207ff5108014f08014e08014d08014c15b24a0801480b654708014605524505524408014307304207ff4115b13e07ff3d07ff3b07ff3907ff3615b23407ff3315b23007ff2f08012e06ce2d072e2c05522b0d3507,
  0x107cc3135eb601d9b208017e08017608017508017408017305756e0e1e5b05105707ff5507ff5407ff5207ff5108014f08014e08014d08014c15994a0801480b644708014605754505754408014307304207ff4115983e07ff3d07ff3b07ff3907ff3615993407ff3315993007ff2f08012e06ce2d08c22c05752b0d3507,
  0x107cc3135eb601d9b208017e08017608017508017408017305756e0e1e5b05105707ff5507ff5407ff5207ff5108014f08014e08014d08014c15994a0801480b644708014605754505754408014307304207ff4115983e07ff3d07ff3b07ff3907ff3615993407ff3315993007ff2f08012e06ce2d08c42c05752b0d3507,
  0x107cc3135eb601d9b208017e08017608017508017408017305756e0e1e5b05105707ff5507ff5407ff5207ff5108014f08014e08014d08014c15994a0801480b644708014605754505754408014307304207ff4115983e07ff3d07ff3b07ff3907ff3615993407ff3315993007ff2f08012e06ce2d08c52c05752b0d3507,
  0x107cc3135eb601d9b208017e08017608017508017408017305756e0e1e5b05105707ff5507ff5407ff5207ff5108014f08014e08014d08014c15994a0801480b644708014605754505754408014307304207ff4115983e07ff3d07ff3b07ff3907ff3615993407ff3315993007ff2f08012e06ce2d08c62c05752b0d3507,
  0x107cc3135eb601d9b208017e08017608017508017408017305756e0e1e5b05105707ff5507ff5407ff5207ff5108014f08014e08014d08014c15994a0801480b644708014605754505754408014307304207ff4115983e07ff3d07ff3b07ff3907ff3615993407ff3315993007ff2f08012e06ce2d08c82c05752b0d3507,
  0x10edc3135eb60257b206507e06507606507506507406507305a86e0e1e5b051057064f55064f54064f52064f5106504f06504e06504d06504c15ba4a0650480b614706504605a84505a84406504305ee42064f4115843e064f3d064f3b064f39064f3615ba34064f3315ba30064f2f06502e05dd2d09c62c05a82b0de907,
  0x107cc3135eb601d9b208017e08017608017508017408017305756e0e1e5b05105707ff5507ff5407ff5207ff5108014f08014e08014d08014c15994a0801480b644708014605754505754408014307304207ff4115983e07ff3d07ff3b07ff3907ff3615993407ff3315993007ff2f08012e06ce2d08ca2c05752b0d3507,
  0x107cc3135eb601d9b208017e08017608017508017408017305756e0e1e5b05105707ff5507ff5407ff5207ff5108014f08014e08014d08014c15994a0801480b644708014605754505754408014307304207ff4115983e07ff3d07ff3b07ff3907ff3615993407ff3315993007ff2f08012e06ce2d08cc2c05752b0d3507,
  0x107cc3135eb601d9b208017e08017608017508017408017305756e0e1e5b05105707ff5507ff5407ff5207ff5108014f08014e08014d08014c15994a0801480b644708014605754505754408014307304207ff4115983e07ff3d07ff3b07ff3907ff3615993407ff3315993007ff2f08012e06ce2d08cd2c05752b0d3507,
  0x107cc3135eb601d9b208017e08017608017508017408017305756e0e1e5b05105707ff5507ff5407ff5207ff5108014f08014e08014d08014c15994a0801480b644708014605754505754408014307304207ff4115983e07ff3d07ff3b07ff3907ff3615993407ff3315993007ff2f08012e06ce2d08ce2c05752b0d3507,
  0x107cc3135eb601d9b208017e08017608017508017408017305756e0e1e5b05105707ff5507ff5407ff5207ff5108014f08014e08014d08014c15994a0801480b644708014605754505754408014307304207ff4115983e07ff3d07ff3b07ff3907ff3615993407ff3315993007ff2f08012e06ce2d08cf2c05752b0d3507,
  0x107cc3135eb601d9b208017e08017608017508017408017305756e0e1e5b05105707ff5507ff5407ff5207ff5108014f08014e08014d08014c15994a0801480b644708014605754505754408014307304207ff4115983e07ff3d07ff3b07ff3907ff3615993407ff3315993007ff2f08012e06ce2d08d02c05752b0d3507,
  0x107cc3135eb601d9b208017e08017608017508017408017305756e0e1e5b05105707ff5507ff5407ff5207ff5108014f08014e08014d08014c15994a0801480b644708014605754505754408014307304207ff4115983e07ff3d07ff3b07ff3907ff3615993407ff3315993007ff2f08012e06ce2d08d12c05752b0d3507,
  0x107cc3135eb601d9b208017e08017608017508017408017305756e0e1e5b05105707ff5507ff5407ff5207ff5108014f08014e08014d08014c15994a0801480b644708014605754505754408014307304207ff4115983e07ff3d07ff3b07ff3907ff3615993407ff3315993007ff2f08012e06ce2d08d22c05752b0d3507,
  0x107cc3135eb601d9b208017e08017608017508017408017305756e0e1e5b05105707ff5507ff5407ff5207ff5108014f08014e08014d08014c15994a0801480b644708014605754505754408014307304207ff4115983e07ff3d07ff3b07ff3907ff3615993407ff3315993007ff2f08012e06ce2d08d32c05752b0d3507,
  0x107cc3135eb601d9b208017e08017608017508017408017305756e0e1e5b05105707ff5507ff5407ff5207ff5108014f08014e08014d08014c15994a0801480b644708014605754505754408014307304207ff4115983e07ff3d07ff3b07ff3907ff3615993407ff3315993007ff2f08012e06ce2d08d42c05752b0d3507,
  0x107cc3135eb601d9b208017e08017608017508017408017305756e0e1e5b05105707ff5507ff5407ff5207ff5108014f08014e08014d08014c15994a0801480b644708014605754505754408014307304207ff4115983e07ff3d07ff3b07ff3907ff3615993407ff3315993007ff2f08012e06ce2d08d52c05752b0d3507,
  0x107cc3135eb601d9b208017e08017608017508017408017305756e0e1e5b05105707ff5507ff5407ff5207ff5108014f08014e08014d08014c15994a0801480b644708014605754505754408014307304207ff4115983e07ff3d07ff3b07ff3907ff3615993407ff3315993007ff2f08012e06ce2d08d72c05752b0d3507,
  0x10edc3135eb60270b206507e06507606507506507406507305a96e0e1e5b051057064f55064f54064f52064f5106504f06504e06504d06504c15bc4a0650480b624706504605a94505a94406504305ee42064f41158b3e064f3d064f3b064f39064f3615bc34064f3315bc30064f2f06502e05dd2d09c72c05a92b0de907,
  0x107cc3135eb601d9b208017e08017608017508017408017305756e0e1e5b05105707ff5507ff5407ff5207ff5108014f08014e08014d08014c15994a0801480b644708014605754505754408014307304207ff4115983e07ff3d07ff3b07ff3907ff3615993407ff3315993007ff2f08012e06ce2d08db2c05752b0d3507,
  0x107cc3135eb601d9b208017e08017608017508017408017305756e0e1e5b05105707ff5507ff5407ff5207ff5108014f08014e08014d08014c15994a0801480b644708014605754505754408014307304207ff4115983e07ff3d07ff3b07ff3907ff3615993407ff3315993007ff2f08012e06ce2d08dc2c05752b0d3507,
  0x10edc3135eb601f2b206507e06507606507506507406507305346e0e1e5b051057064f55064f54064f52064f5106504f06504e06504d06504c15af4a0650480b564706504605344505344406504305ee42064f41156b3e064f3d064f3b064f39064f3615af34064f3315af30064f2f06502e05dd2d080e2c05342b0de907,
  0x107cc3135eb601d9b208017e08017608017508017408017305756e0e1e5b05105707ff5507ff5407ff5207ff5108014f08014e08014d08014c15994a0801480b644708014605754505754408014307304207ff4115983e07ff3d07ff3b07ff3907ff3615993407ff3315993007ff2f08012e06ce2d08de2c05752b0d3507,
  0x10edc3135eb60224b206507e06507606507506507406507304c56e0e1e5b051057064f55064f54064f52064f5106504f06504e06504d06504c14f24a0650480b5b4706504604c54504c54406504305ee42064f4115743e064f3d064f3b064f39064f3614f234064f3314f230064f2f06502e05dd2d09e62c04c52b0de907,
  0x10edc3135eb601f2b206507e06507606507506507406507305346e0e1e5b051057064f55064f54064f52064f5106504f06504e06504d06504c15af4a0650480b564706504605344505344406504305ee42064f41156b3e064f3d064f3b064f39064f3615af34064f3315af30064f2f06502e05dd2d06ac2c05342b0de907,
  0x10edc3135eb601f2b206507e06507606507506507406507305346e0e1e5b051057064f55064f54064f52064f5106504f06504e06504d06504c15af4a0650480b564706504605344505344406504305ee42064f41156b3e064f3d064f3b064f39064f3615af34064f3315af30064f2f06502e05dd2d06ae2c05342b0de907,
  0x10edc3135eb601f2b206507e06507606507506507406507305346e0e1e5b051057064f55064f54064f52064f5106504f06504e06504d06504c15af4a0650480b564706504605344505344406504305ee42064f41156b3e064f3d064f3b064f39064f3615af34064f3315af30064f2f06502e05dd2d06af2c05342b0de907,
  0x10edc3135eb601f2b206507e06507606507506507406507305346e0e1e5b051057064f55064f54064f52064f5106504f06504e06504d06504c15af4a0650480b564706504605344505344406504305ee42064f41156b3e064f3d064f3b064f39064f3615af34064f3315af30064f2f06502e05dd2d06b02c05342b0de907,
  0x10edc3135eb601f2b206507e06507606507506507406507305346e0e1e5b051057064f55064f54064f52064f5106504f06504e06504d06504c15af4a0650480b564706504605344505344406504305ee42064f41156b3e064f3d064f3b064f39064f3615af34064f3315af30064f2f06502e05dd2d06b22c05342b0de907,
  0x10edc3135eb601f2b206507e06507606507506507406507305346e0e1e5b051057064f55064f54064f52064f5106504f06504e06504d06504c15af4a0650480b564706504605344505344406504305ee42064f41156b3e064f3d064f3b064f39064f3615af34064f3315af30064f2f06502e05dd2d06b32c05342b0de907,
  0x10edc3135eb601f2b206507e06507606507506507406507305346e0e1e5b051057064f55064f54064f52064f5106504f06504e06504d06504c15af4a0650480b564706504605344505344406504305ee42064f41156b3e064f3d064f3b064f39064f3615af34064f3315af30064f2f06502e05dd2d070b2c05342b0de907,
  0x10edc3135eb601f2b206507e06507606507506507406507305346e0e1e5b051057064f55064f54064f52064f5106504f06504e06504d06504c15af4a0650480b564706504605344505344406504305ee42064f41156b3e064f3d064f3b064f39064f3615af34064f3315af30064f2f06502e05dd2d06b42c05342b0de907,
  0x10edc3135eb601f2b206507e06507606507506507406507305346e0e1e5b051057064f55064f54064f52064f5106504f06504e06504d06504c15af4a0650480b564706504605344505344406504305ee42064f41156b3e064f3d064f3b064f39064f3615af34064f3315af30064f2f06502e05dd2d06b52c05342b0de907,
  0x10edc3135eb601f2b206507e06507606507506507406507305346e0e1e5b051057064f55064f54064f52064f5106504f06504e06504d06504c15af4a0650480b564706504605344505344406504305ee42064f41156b3e064f3d064f3b064f39064f3615af34064f3315af30064f2f06502e05dd2d06b62c05342b0de907,
  0x10edc3135eb601f2b206507e06507606507506507406507305346e0e1e5b051057064f55064f54064f52064f5106504f06504e06504d06504c15af4a0650480b564706504605344505344406504305ee42064f41156b3e064f3d064f3b064f39064f3615af34064f3315af30064f2f06502e05dd2d06b72c05342b0de907,
  0x10edc3135eb601f2b206507e06507606507506507406507305346e0e1e5b051057064f55064f54064f52064f5106504f06504e06504d06504c15af4a0650480b564706504605344505344406504305ee42064f41156b3e064f3d064f3b064f39064f3615af34064f3315af30064f2f06502e05dd2d06b82c05342b0de907,
  0x10edc3135eb601f2b206507e06507606507506507406507305346e0e1e5b051057064f55064f54064f52064f5106504f06504e06504d06504c15af4a0650480b564706504605344505344406504305ee42064f41156b3e064f3d064f3b064f39064f3615af34064f3315af30064f2f06502e05dd2d06b92c05342b0de907,
  0x10edc3135eb601f2b206507e06507606507506507406507305346e0e1e5b051057064f55064f54064f52064f5106504f06504e06504d06504c15af4a0650480b564706504605344505344406504305ee42064f41156b3e064f3d064f3b064f39064f3615af34064f3315af30064f2f06502e05dd2d06ba2c05342b0de907,
  0x10edc3135eb601f2b206507e06507606507506507406507305346e0e1e5b051057064f55064f54064f52064f5106504f06504e06504d06504c15af4a0650480b564706504605344505344406504305ee42064f41156b3e064f3d064f3b064f39064f3615af34064f3315af30064f2f06502e05dd2d06bb2c05342b0de907,
  0x10edc3135eb601f2b206507e06507606507506507406507305346e0e1e5b051057064f55064f54064f52064f5106504f06504e06504d06504c15af4a0650480b564706504605344505344406504305ee42064f41156b3e064f3d064f3b064f39064f3615af34064f3315af30064f2f06502e05dd2d06bc2c05342b0de907,
  0x10edc3135eb601f2b206507e06507606507506507406507305346e0e1e5b051057064f55064f54064f52064f5106504f06504e06504d06504c15af4a0650480b564706504605344505344406504305ee42064f41156b3e064f3d064f3b064f39064f3615af34064f3315af30064f2f06502e05dd2d06bd2c05342b0de907]

/-- The rows of successors 384 to 447. -/
def gotos6 : Array Nat := #[
  0x10edc3135eb601f2b206507e06507606507506507406507305346e0e1e5b051057064f55064f54064f52064f5106504f06504e06504d06504c15af4a0650480b564706504605344505344406504305ee42064f41156b3e064f3d064f3b064f39064f3615af34064f3315af30064f2f06502e05dd2d06bf2c05342b0de907,
  0x10edc3135eb601f2b206507e06507606507506507406507305346e0e1e5b051057064f55064f54064f52064f5106504f06504e06504d06504c15af4a0650480b564706504605344505344406504305ee42064f41156b3e064f3d064f3b064f39064f3615af34064f3315af30064f2f06502e05dd2d09352c05342b0de907,
  0x10edc3135eb601f2b206507e06507606507506507406507305346e0e1e5b051057064f55064f54064f52064f5106504f06504e06504d06504c15af4a0650480b564706504605344505344406504305ee42064f41156b3e064f3d064f3b064f39064f3615af34064f3315af30064f2f06502e05dd2d06c32c05342b0de907,
  0x10edc3135eb601f2b206507e06507606507506507406507305346e0e1e5b051057064f55064f54064f52064f5106504f06504e06504d06504c15af4a0650480b564706504605344505344406504305ee42064f41156b3e064f3d064f3b064f39064f3615af34064f3315af30064f2f06502e05dd2d06c42c05342b0de907,
  0x10edc3135eb601f2b206507e06507606507506507406507305346e0e1e5b051057064f55064f54064f52064f5106504f06504e06504d06504c15af4a0650480b564706504605344505344406504305ee42064f41156b3e064f3d064f3b064f39064f3615af34064f3315af30064f2f06502e05dd2d06c52c05342b0de907,
  0x10edc3135eb601f2b206507e06507606507506507406507305346e0e1e5b051057064f55064f54064f52064f5106504f06504e06504d06504c15af4a0650480b564706504605344505344406504305ee42064f41156b3e064f3d064f3b064f39064f3615af34064f3315af30064f2f06502e05dd2d06cb2c05342b0de907,
  0x10edc3135eb60224b206507e06507606507506507406507305ae6e0e1e5b051057064f55064f54064f52064f5106504f06504e06504d06504c15704a0650480b5b4706504605ae4505ae4406504305ee42064f4115743e064f3d064f3b064f39064f36157034064f33157030064f2f06502e05dd2d0a112c05ae2b0de907,
  0x107cc3135eb6020db208017e08017608017508017408017305526e0e1e5b05105707ff5507ff5407ff5207ff5108014f08014e08014d08014c15b24a0801480b654708014605524505524408014307304207ff4115b13e07ff3d07ff3b07ff3907ff3615b23407ff3315b23007ff2f08012e06ce2d07102c05522b0d3507,
  0x107cc3135eb6020db208017e08017608017508017408017305526e0e1e5b05105707ff5507ff5407ff5207ff5108014f08014e08014d08014c15b24a0801480b654708014605524505524408014307304207ff4115b13e07ff3d07ff3b07ff3907ff3615b23407ff3315b23007ff2f08012e06ce2d07122c05522b0d3507,
  0x107cc3135eb6020db208017e08017608017508017408017305526e0e1e5b05105707ff5507ff5407ff5207ff5108014f08014e08014d08014c15b24a0801480b654708014605524505524408014307304207ff4115b13e07ff3d07ff3b07ff3907ff3615b23407ff3315b23007ff2f08012e06ce2d07132c05522b0d3507,
  0x107cc3135eb6020db208017e08017608017508017408017305526e0e1e5b05105707ff5507ff5407ff5207ff5108014f08014e08014d08014c15b24a0801480b654708014605524505524408014307304207ff4115b13e07ff3d07ff3b07ff3907ff3615b23407ff3315b23007ff2f08012e06ce2d07142c05522b0d3507,
  0x107cc3135eb6020db208017e08017608017508017408017305526e0e1e5b05105707ff5507ff5407ff5207ff5108014f08014e08014d08014c15b24a0801480b654708014605524505524408014307304207ff4115b13e07ff3d07ff3b07ff3907ff3615b23407ff3315b23007ff2f08012e06ce2d07162c05522b0d3507,
  0x10edc3135eb60257b206507e06507606507506507406507305a86e0e1e5b051057064f55064f54064f52064f5106504f06504e06504d06504c15ba4a0650480b614706504605a84505a84406504305ee42064f4115843e064f3d064f3b064f39064f3615ba34064f3315ba30064f2f06502e05dd2d09e22c05a82b0de907,
  0x107cc3135eb6020db208017e08017608017508017408017305526e0e1e5b05105707ff5507ff5407ff5207ff5108014f08014e08014d08014c15b24a0801480b654708014605524505524408014307304207ff4115b13e07ff3d07ff3b07ff3907ff3615b23407ff3315b23007ff2f08012e06ce2d07172c05522b0d3507,
  0x107cc3135eb6020db208017e08017608017508017408017305526e0e1e5b05105707ff5507ff5407ff5207ff5108014f08014e08014d08014c15b24a0801480b654708014605524505524408014307304207ff4115b13e07ff3d07ff3b07ff3907ff3615b23407ff3315b23007ff2f08012e06ce2d07182c05522b0d3507,
  0x107cc3135eb6020db208017e08017608017508017408017305526e0e1e5b05105707ff5507ff5407ff5207ff5108014f08014e08014d08014c15b24a0801480b654708014605524505524408014307304207ff4115b13e07ff3d07ff3b07ff3907ff3615b23407ff3315b23007ff2f08012e06ce2d07192c05522b0d3507,
  0x107cc3135eb6020db208017e08017608017508017408017305526e0e1e5b05105707ff5507ff5407ff5207ff5108014f08014e08014d08014c15b24a0801480b654708014605524505524408014307304207ff4115b13e07ff3d07ff3b07ff3907ff3615b23407ff3315b23007ff2f08012e06ce2d071a2c05522b0d3507,
  0x107cc3135eb6020db208017e08017608017508017408017305526e0e1e5b05105707ff5507ff5407ff5207ff5108014f08014e08014d08014c15b24a0801480b654708014605524505524408014307304207ff4115b13e07ff3d07ff3b07ff3907ff3615b23407ff3315b23007ff2f08012e06ce2d071b2c05522b0d3507,
  0x107cc3135eb6020db208017e08017608017508017408017305526e0e1e5b05105707ff5507ff5407ff5207ff5108014f08014e08014d08014c15b24a0801480b654708014605524505524408014307304207ff4115b13e07ff3d07ff3b07ff3907ff3615b23407ff3315b23007ff2f08012e06ce2d071c2c05522b0d3507,
  0x107cc3135eb6020db208017e08017608017508017408017305526e0e1e5b05105707ff5507ff5407ff5207ff5108014f08014e08014d08014c15b24a0801480b654708014605524505524408014307304207ff4115b13e07ff3d07ff3b07ff3907ff3615b23407ff3315b23007ff2f08012e06ce2d071d2c05522b0d3507,
  0x107cc3135eb6020db208017e08017608017508017408017305526e0e1e5b05105707ff5507ff5407ff5207ff5108014f08014e08014d08014c15b24a0801480b654708014605524505524408014307304207ff4115b13e07ff3d07ff3b07ff3907ff3615b23407ff3315b23007ff2f08012e06ce2d071e2c05522b0d3507,
  0x107cc3135eb6020db208017e08017608017508017408017305526e0e1e5b05105707ff5507ff5407ff5207ff5108014f08014e08014d08014c15b24a0801480b654708014605524505524408014307304207ff4115b13e07ff3d07ff3b07ff3907ff3615b23407ff3315b23007ff2f08012e06ce2d071f2c05522b0d3507,
  0x107cc3135eb6020db208017e08017608017508017408017305526e0e1e5b05105707ff5507ff5407ff5207ff5108014f08014e08014d08014c15b24a0801480b654708014605524505524408014307304207ff4115b13e07ff3d07ff3b07ff3907ff3615b23407ff3315b23007ff2f08012e06ce2d07202c05522b0d3507,
  0x107cc3135eb6020db208017e08017608017508017408017305526e0e1e5b05105707ff5507ff5407ff5207ff5108014f08014e08014d08014c15b24a0801480b654708014605524505524408014307304207ff4115b13e07ff3d07ff3b07ff3907ff3615b23407ff3315b23007ff2f08012e06ce2d07212c05522b0d3507,
  0x107cc3135eb6020db208017e08017608017508017408017305526e0e1e5b05105707ff5507ff5407ff5207ff5108014f08014e08014d08014c15b24a0801480b654708014605524505524408014307304207ff4115b13e07ff3d07ff3b07ff3907ff3615b23407ff3315b23007ff2f08012e06ce2d07232c05522b0d3507,
  0x107cc3135eb6020db208017e08017608017508017408017305526e0e1e5b05105707ff5507ff5407ff5207ff5108014f08014e08014d08014c15b24a0801480b654708014605524505524408014307304207ff4115b13e07ff3d07ff3b07ff3907ff3615b23407ff3315b23007ff2f08012e06ce2d07272c05522b0d3507,
  0x107cc3135eb6020db208017e08017608017508017408017305526e0e1e5b05105707ff5507ff5407ff5207ff5108014f08014e08014d08014c15b24a0801480b654708014605524505524408014307304207ff4115b13e07ff3d07ff3b07ff3907ff3615b23407ff3315b23007ff2f08012e06ce2d07282c05522b0d3507,
  0x107cc3135eb6020db208017e08017608017508017408017305526e0e1e5b05105707ff5507ff5407ff5207ff5108014f08014e08014d08014c15b24a0801480b654708014605524505524408014307304207ff4115b13e07ff3d07ff3b07ff3907ff3615b23407ff3315b23007ff2f08012e06ce2d07292c05522b0d3507,
  0x10edc3135eb60288b206507e06507606507506507406507305ab6e0e1e5b051057064f55064f54064f52064f5106504f06504e06504d06504c15bd4a0650480b634706504605ab4505ab4406504305ee42064f4115913e064f3d064f3b064f39064f3615bd34064f3315bd30064f2f06502e05dd2d09972c05ab2b0de907,
  0x10edc3135eb60224b206507e06507606507506507406507304c56e0e1e5b051057064f55064f54064f52064f5106504f06504e06504d06504c14f24a0650480b5b4706504604c54504c54406504305ee42064f4115743e064f3d064f3b064f39064f3614f234064f3314f230064f2f06502e05dd2d09c82c04c52b0de907,
  0x10edc3135eb60224b206507e06507606507506507406507304c56e0e1e5b051057064f55064f54064f52064f5106504f06504e06504d06504c14f24a0650480b5b4706504604c54504c54406504305ee42064f4115743e064f3d064f3b064f39064f3614f234064f3314f230064f2f06502e05dd2d09ca2c04c52b0de907,
  0x10edc3135eb60224b206507e06507606507506507406507304c56e0e1e5b051057064f55064f54064f52064f5106504f06504e06504d06504c14f24a0650480b5b4706504604c54504c54406504305ee42064f4115743e064f3d064f3b064f39064f3614f234064f3314f230064f2f06502e05dd2d09cb2c04c52b0de907,
  0x10edc3135eb60224b206507e06507606507506507406507304c56e0e1e5b051057064f55064f54064f52064f5106504f06504e06504d06504c14f24a0650480b5b4706504604c54504c54406504305ee42064f4115743e064f3d064f3b064f39064f3614f234064f3314f230064f2f06502e05dd2d09cc2c04c52b0de907,
  0x10edc3135eb60224b206507e06507606507506507406507304c56e0e1e5b051057064f55064f54064f52064f5106504f06504e06504d06504c14f24a0650480b5b4706504604c54504c54406504305ee42064f4115743e064f3d064f3b064f39064f3614f234064f3314f230064f2f06502e05dd2d09ce2c04c52b0de907,
  0x10edc3135eb60224b206507e06507606507506507406507304c56e0e1e5b051057064f55064f54064f52064f5106504f06504e06504d06504c14f24a0650480b5b4706504604c54504c54406504305ee42064f4115743e064f3d064f3b064f39064f3614f234064f3314f230064f2f06502e05dd2d09cf2c04c52b0de907,
  0x10edc3135eb60224b206507e06507606507506507406507304c56e0e1e5b051057064f55064f54064f52064f5106504f06504e06504d06504c14f24a0650480b5b4706504604c54504c54406504305ee42064f4115743e064f3d064f3b064f39064f3614f234064f3314f230064f2f06502e05dd2d09d02c04c52b0de907,
  0x10edc3135eb60224b206507e06507606507506507406507304c56e0e1e5b051057064f55064f54064f52064f5106504f06504e06504d06504c14f24a0650480b5b4706504604c54504c54406504305ee42064f4115743e064f3d064f3b064f39064f3614f234064f3314f230064f2f06502e05dd2d09d12c04c52b0de907,
  0x10edc3135eb60224b206507e06507606507506507406507304c56e0e1e5b051057064f55064f54064f52064f5106504f06504e06504d06504c14f24a0650480b5b4706504604c54504c54406504305ee42064f4115743e064f3d064f3b064f39064f3614f234064f3314f230064f2f06502e05dd2d09d22c04c52b0de907,
  0x10edc3135eb60224b206507e06507606507506507406507304c56e0e1e5b051057064f55064f54064f52064f5106504f06504e06504d06504c14f24a0650480b5b4706504604c54504c54406504305ee42064f4115743e064f3d064f3b064f39064f3614f234064f3314f230064f2f06502e05dd2d09d32c04c52b0de907,
  0x10edc3135eb60224b206507e06507606507506507406507304c56e0e1e5b051057064f55064f54064f52064f5106504f06504e06504d06504c14f24a0650480b5b4706504604c54504c54406504305ee42064f4115743e064f3d064f3b064f39064f3614f234064f3314f230064f2f06502e05dd2d09d42c04c52b0de907,
  0x10edc3135eb60224b206507e06507606507506507406507304c56e0e1e5b051057064f55064f54064f52064f5106504f06504e06504d06504c14f24a0650480b5b4706504604c54504c54406504305ee42064f4115743e064f3d064f3b064f39064f3614f234064f3314f230064f2f06502e05dd2d09d52c04c52b0de907,
  0x10edc3135eb60224b206507e06507606507506507406507304c56e0e1e5b051057064f55064f54064f52064f5106504f06504e06504d06504c14f24a0650480b5b4706504604c54504c54406504305ee42064f4115743e064f3d064f3b064f39064f3614f234064f3314f230064f2f06502e05dd2d09d62c04c52b0de907,
  0x10edc3135eb60224b206507e06507606507506507406507304c56e0e1e5b051057064f55064f54064f52064f5106504f06504e06504d06504c14f24a0650480b5b4706504604c54504c54406504305ee42064f4115743e064f3d064f3b064f39064f3614f234064f3314f230064f2f06502e05dd2d09d72c04c52b0de907,
  0x10edc3135eb60224b206507e06507606507506507406507304c56e0e1e5b051057064f55064f54064f52064f5106504f06504e06504d06504c14f24a0650480b5b4706504604c54504c54406504305ee42064f4115743e064f3d064f3b064f39064f3614f234064f3314f230064f2f06502e05dd2d09d82c04c52b0de907,
  0x10edc3135eb60224b206507e06507606507506507406507304c56e0e1e5b051057064f55064f54064f52064f5106504f06504e06504d06504c14f24a0650480b5b4706504604c54504c54406504305ee42064f4115743e064f3d064f3b064f39064f3614f234064f3314f230064f2f06502e05dd2d09d92c04c52b0de907,
  0x10edc3135eb60224b206507e06507606507506507406507304c56e0e1e5b051057064f55064f54064f52064f5106504f06504e06504d06504c14f24a0650480b5b4706504604c54504c54406504305ee42064f4115743e064f3d064f3b064f39064f3614f234064f3314f230064f2f06502e05dd2d09db2c04c52b0de907,
  0x10edc3135eb60224b206507e06507606507506507406507304c56e0e1e5b051057064f55064f54064f52064f5106504f06504e06504d06504c14f24a0650480b5b4706504604c54504c54406504305ee42064f4115743e064f3d064f3b064f39064f3614f234064f3314f230064f2f06502e05dd2d09df2c04c52b0de907,
  0x10edc3135eb60224b206507e06507606507506507406507304c56e0e1e5b051057064f55064f54064f52064f5106504f06504e06504d06504c14f24a0650480b5b4706504604c54504c54406504305ee42064f4115743e064f3d064f3b064f39064f3614f234064f3314f230064f2f06502e05dd2d09e02c04c52b0de907,
  0x10edc3135eb60224b206507e06507606507506507406507304c56e0e1e5b051057064f55064f54064f52064f5106504f06504e06504d06504c14f24a0650480b5b4706504604c54504c54406504305ee42064f4115743e064f3d064f3b064f39064f3614f234064f3314f230064f2f06502e05dd2d09e12c04c52b0de907,
  0x10edc3135eb60224b206507e06507606507506507406507304c56e0e1e5b051057064f55064f54064f52064f5106504f06504e06504d06504c14f24a0650480b5b4706504604c54504c54406504305ee42064f4115743e064f3d064f3b064f39064f3614f234064f3314f230064f2f06502e05dd2d09e42c04c52b0de907,
  0x10edc3135eb60224b206507e06507606507506507406507305af6e0e1e5b051057064f55064f54064f52064f5106504f06504e06504d06504c15784a0650480b5b4706504605af4505af4406504305ee42064f4115743e064f3d064f3b064f39064f36157834064f33157830064f2f06502e05dd2d0a112c05af2b0de907,
  0x10edc3135eb60257b206507e06507606507506507406507305a86e0e1e5b051057064f55064f54064f52064f5106504f06504e06504d06504c15ba4a0650480b614706504605a84505a84406504305ee42064f4115843e064f3d064f3b064f39064f3615ba34064f3315ba30064f2f06502e05dd2d09e72c05a82b0de907,
  0x10edc3135eb6023eb206507e065076065075065074065073056d6e0e1e5b051057064f55064f54064f52064f5106504f06504e06504d06504c15b84a0650480b5c47065046056d45056d4406504305ee42064f41157c3e064f3d064f3b064f39064f3615b834064f3315b830064f2f06502e05dd2d07e02c056d2b0de907,
  0x10edc3135eb6023eb206507e065076065075065074065073056d6e0e1e5b051057064f55064f54064f52064f5106504f06504e06504d06504c15b84a0650480b5c47065046056d45056d4406504305ee42064f41157c3e064f3d064f3b064f39064f3615b834064f3315b830064f2f06502e05dd2d07e22c056d2b0de907,
  0x10edc3135eb6023eb206507e065076065075065074065073056d6e0e1e5b051057064f55064f54064f52064f5106504f06504e06504d06504c15b84a0650480b5c47065046056d45056d4406504305ee42064f41157c3e064f3d064f3b064f39064f3615b834064f3315b830064f2f06502e05dd2d07e32c056d2b0de907,
  0x10edc3135eb6023eb206507e065076065075065074065073056d6e0e1e5b051057064f55064f54064f52064f5106504f06504e06504d06504c15b84a0650480b5c47065046056d45056d4406504305ee42064f41157c3e064f3d064f3b064f39064f3615b834064f3315b830064f2f06502e05dd2d07e42c056d2b0de907,
  0x10edc3135eb6023eb206507e065076065075065074065073056d6e0e1e5b051057064f55064f54064f52064f5106504f06504e06504d06504c15b84a0650480b5c47065046056d45056d4406504305ee42064f41157c3e064f3d064f3b064f39064f3615b834064f3315b830064f2f06502e05dd2d07e62c056d2b0de907,
  0x10edc3135eb6023eb206507e065076065075065074065073056d6e0e1e5b051057064f55064f54064f52064f5106504f06504e06504d06504c15b84a0650480b5c47065046056d45056d4406504305ee42064f41157c3e064f3d064f3b064f39064f3615b834064f3315b830064f2f06502e05dd2d07e72c056d2b0de907,
  0x10edc3135eb6023eb206507e065076065075065074065073056d6e0e1e5b051057064f55064f54064f52064f5106504f06504e06504d06504c15b84a0650480b5c47065046056d45056d4406504305ee42064f41157c3e064f3d064f3b064f39064f3615b834064f3315b830064f2f06502e05dd2d07e82c056d2b0de907,
  0x10edc3135eb6023eb206507e065076065075065074065073056d6e0e1e5b051057064f55064f54064f52064f5106504f06504e06504d06504c15b84a0650480b5c47065046056d45056d4406504305ee42064f41157c3e064f3d064f3b064f39064f3615b834064f3315b830064f2f06502e05dd2d07e92c056d2b0de907,
  0x10edc3135eb6023eb206507e065076065075065074065073056d6e0e1e5b051057064f55064f54064f52064f5106504f06504e06504d06504c15b84a0650480b5c47065046056d45056d4406504305ee42064f41157c3e064f3d064f3b064f39064f3615b834064f3315b830064f2f06502e05dd2d07ea2c056d2b0de907,
  0x10edc3135eb6023eb206507e065076065075065074065073056d6e0e1e5b051057064f55064f54064f52064f5106504f06504e06504d06504c15b84a0650480b5c47065046056d45056d4406504305ee42064f41157c3e064f3d064f3b064f39064f3615b834064f3315b830064f2f06502e05dd2d07eb2c056d2b0de907,
  0x10edc3135eb6023eb206507e065076065075065074065073056d6e0e1e5b051057064f55064f54064f52064f5106504f06504e06504d06504c15b84a0650480b5c47065046056d45056d4406504305ee42064f41157c3e064f3d064f3b064f39064f3615b834064f3315b830064f2f06502e05dd2d07ec2c056d2b0de907,
  0x10edc3135eb6023eb206507e065076065075065074065073056d6e0e1e5b051057064f55064f54064f52064f5106504f06504e06504d06504c15b84a0650480b5c47065046056d45056d4406504305ee42064f41157c3e064f3d064f3b064f39064f3615b834064f3315b830064f2f06502e05dd2d07ed2c056d2b0de907]

/-- The rows of successors 448 to 511. -/
def gotos7 : Array Nat := #[
  0x10edc3135eb6023eb206507e065076065075065074065073056d6e0e1e5b051057064f55064f54064f52064f5106504f06504e06504d06504c15b84a0650480b5c47065046056d45056d4406504305ee42064f41157c3e064f3d064f3b064f39064f3615b834064f3315b830064f2f06502e05dd2d07ee2c056d2b0de907,
  0x10edc3135eb6023eb206507e065076065075065074065073056d6e0e1e5b051057064f55064f54064f52064f5106504f06504e06504d06504c15b84a0650480b5c47065046056d45056d4406504305ee42064f41157c3e064f3d064f3b064f39064f3615b834064f3315b830064f2f06502e05dd2d07ef2c056d2b0de907,
  0x10edc3135eb6023eb206507e065076065075065074065073056d6e0e1e5b051057064f55064f54064f52064f5106504f06504e06504d06504c15b84a0650480b5c47065046056d45056d4406504305ee42064f41157c3e064f3d064f3b064f39064f3615b834064f3315b830064f2f06502e05dd2d07f02c056d2b0de907,
  0x10edc3135eb6023eb206507e065076065075065074065073056d6e0e1e5b051057064f55064f54064f52064f5106504f06504e06504d06504c15b84a0650480b5c47065046056d45056d4406504305ee42064f41157c3e064f3d064f3b064f39064f3615b834064f3315b830064f2f06502e05dd2d07f12c056d2b0de907,
  0x10edc3135eb6023eb206507e065076065075065074065073056d6e0e1e5b051057064f55064f54064f52064f5106504f06504e06504d06504c15b84a0650480b5c47065046056d45056d4406504305ee42064f41157c3e064f3d064f3b064f39064f3615b834064f3315b830064f2f06502e05dd2d07f32c056d2b0de907,
  0x10edc3135eb6023eb206507e065076065075065074065073056d6e0e1e5b051057064f55064f54064f52064f5106504f06504e06504d06504c15b84a0650480b5c47065046056d45056d4406504305ee42064f41157c3e064f3d064f3b064f39064f3615b834064f3315b830064f2f06502e05dd2d07f72c056d2b0de907,
  0x10edc3135eb6023eb206507e065076065075065074065073056d6e0e1e5b051057064f55064f54064f52064f5106504f06504e06504d06504c15b84a0650480b5c47065046056d45056d4406504305ee42064f41157c3e064f3d064f3b064f39064f3615b834064f3315b830064f2f06502e05dd2d07f82c056d2b0de907,
  0x10edc3135eb6023eb206507e065076065075065074065073056d6e0e1e5b051057064f55064f54064f52064f5106504f06504e06504d06504c15b84a0650480b5c47065046056d45056d4406504305ee42064f41157c3e064f3d064f3b064f39064f3615b834064f3315b830064f2f06502e05dd2d07f92c056d2b0de907,
  0x10edc3135eb6023eb206507e065076065075065074065073056d6e0e1e5b051057064f55064f54064f52064f5106504f06504e06504d06504c15b84a0650480b5c47065046056d45056d4406504305ee42064f41157c3e064f3d064f3b064f39064f3615b834064f3315b830064f2f06502e05dd2d07fb2c056d2b0de907,
  0x10edc3135eb60224b206507e06507606507506507406507305b06e0e1e5b051057064f55064f54064f52064f5106504f06504e06504d06504c15804a0650480b5b4706504605b04505b04406504305ee42064f4115743e064f3d064f3b064f39064f36158034064f33158030064f2f06502e05dd2d0a112c05b02b0de907,
  0x10edc3135eb60257b206507e06507606507506507406507305a86e0e1e5b051057064f55064f54064f52064f5106504f06504e06504d06504c15ba4a0650480b614706504605a84505a84406504305ee42064f4115843e064f3d064f3b064f39064f3615ba34064f3315ba30064f2f06502e05dd2d09e82c05a82b0de907,
  0x10edc3135eb60257b206507e06507606507506507406507305a86e0e1e5b051057064f55064f54064f52064f5106504f06504e06504d06504c15ba4a0650480b614706504605a84505a84406504305ee42064f4115843e064f3d064f3b064f39064f3615ba34064f3315ba30064f2f06502e05dd2d093a2c05a82b0de907,
  0x10edc3135eb60257b206507e06507606507506507406507305a86e0e1e5b051057064f55064f54064f52064f5106504f06504e06504d06504c15ba4a0650480b614706504605a84505a84406504305ee42064f4115843e064f3d064f3b064f39064f3615ba34064f3315ba30064f2f06502e05dd2d093c2c05a82b0de907,
  0x10edc3135eb60257b206507e06507606507506507406507305a86e0e1e5b051057064f55064f54064f52064f5106504f06504e06504d06504c15ba4a0650480b614706504605a84505a84406504305ee42064f4115843e064f3d064f3b064f39064f3615ba34064f3315ba30064f2f06502e05dd2d093d2c05a82b0de907,
  0x10edc3135eb60257b206507e06507606507506507406507305a86e0e1e5b051057064f55064f54064f52064f5106504f06504e06504d06504c15ba4a0650480b614706504605a84505a84406504305ee42064f4115843e064f3d064f3b064f39064f3615ba34064f3315ba30064f2f06502e05dd2d093e2c05a82b0de907,
  0x10edc3135eb60257b206507e06507606507506507406507305a86e0e1e5b051057064f55064f54064f52064f5106504f06504e06504d06504c15ba4a0650480b614706504605a84505a84406504305ee42064f4115843e064f3d064f3b064f39064f3615ba34064f3315ba30064f2f06502e05dd2d09402c05a82b0de907,
  0x10edc3135eb60257b206507e06507606507506507406507305a86e0e1e5b051057064f55064f54064f52064f5106504f06504e06504d06504c15ba4a0650480b614706504605a84505a84406504305ee42064f4115843e064f3d064f3b064f39064f3615ba34064f3315ba30064f2f06502e05dd2d09412c05a82b0de907,
  0x10edc3135eb60257b206507e06507606507506507406507305a86e0e1e5b051057064f55064f54064f52064f5106504f06504e06504d06504c15ba4a0650480b614706504605a84505a84406504305ee42064f4115843e064f3d064f3b064f39064f3615ba34064f3315ba30064f2f06502e05dd2d09422c05a82b0de907,
  0x10edc3135eb60257b206507e06507606507506507406507305a86e0e1e5b051057064f55064f54064f52064f5106504f06504e06504d06504c15ba4a0650480b614706504605a84505a84406504305ee42064f4115843e064f3d064f3b064f39064f3615ba34064f3315ba30064f2f06502e05dd2d09432c05a82b0de907,
  0x10edc3135eb60257b206507e06507606507506507406507305a86e0e1e5b051057064f55064f54064f52064f5106504f06504e06504d06504c15ba4a0650480b614706504605a84505a84406504305ee42064f4115843e064f3d064f3b064f39064f3615ba34064f3315ba30064f2f06502e05dd2d09442c05a82b0de907,
  0x10edc3135eb60257b206507e06507606507506507406507305a86e0e1e5b051057064f55064f54064f52064f5106504f06504e06504d06504c15ba4a0650480b614706504605a84505a84406504305ee42064f4115843e064f3d064f3b064f39064f3615ba34064f3315ba30064f2f06502e05dd2d09452c05a82b0de907,
  0x10edc3135eb60257b206507e06507606507506507406507305a86e0e1e5b051057064f55064f54064f52064f5106504f06504e06504d06504c15ba4a0650480b614706504605a84505a84406504305ee42064f4115843e064f3d064f3b064f39064f3615ba34064f3315ba30064f2f06502e05dd2d09462c05a82b0de907,
  0x10edc3135eb60257b206507e06507606507506507406507305a86e0e1e5b051057064f55064f54064f52064f5106504f06504e06504d06504c15ba4a0650480b614706504605a84505a84406504305ee42064f4115843e064f3d064f3b064f39064f3615ba34064f3315ba30064f2f06502e05dd2d09472c05a82b0de907,
  0x10edc3135eb60257b206507e06507606507506507406507305a86e0e1e5b051057064f55064f54064f52064f5106504f06504e06504d06504c15ba4a0650480b614706504605a84505a84406504305ee42064f4115843e064f3d064f3b064f39064f3615ba34064f3315ba30064f2f06502e05dd2d09482c05a82b0de907,
  0x10edc3135eb60257b206507e06507606507506507406507305a86e0e1e5b051057064f55064f54064f52064f5106504f06504e06504d06504c15ba4a0650480b614706504605a84505a84406504305ee42064f4115843e064f3d064f3b064f39064f3615ba34064f3315ba30064f2f06502e05dd2d09492c05a82b0de907,
  0x10edc3135eb60257b206507e06507606507506507406507305a86e0e1e5b051057064f55064f54064f52064f5106504f06504e06504d06504c15ba4a0650480b614706504605a84505a84406504305ee42064f4115843e064f3d064f3b064f39064f3615ba34064f3315ba30064f2f06502e05dd2d094a2c05a82b0de907,
  0x10edc3135eb60257b206507e06507606507506507406507305a86e0e1e5b051057064f55064f54064f52064f5106504f06504e06504d06504c15ba4a0650480b614706504605a84505a84406504305ee42064f4115843e064f3d064f3b064f39064f3615ba34064f3315ba30064f2f06502e05dd2d094b2c05a82b0de907,
  0x10edc3135eb60257b206507e06507606507506507406507305a86e0e1e5b051057064f55064f54064f52064f5106504f06504e06504d06504c15ba4a0650480b614706504605a84505a84406504305ee42064f4115843e064f3d064f3b064f39064f3615ba34064f3315ba30064f2f06502e05dd2d094d2c05a82b0de907,
  0x10edc3135eb60257b206507e06507606507506507406507305a86e0e1e5b051057064f55064f54064f52064f5106504f06504e06504d06504c15ba4a0650480b614706504605a84505a84406504305ee42064f4115843e064f3d064f3b064f39064f3615ba34064f3315ba30064f2f06502e05dd2d09512c05a82b0de907,
  0x10edc3135eb60257b206507e06507606507506507406507305a86e0e1e5b051057064f55064f54064f52064f5106504f06504e06504d06504c15ba4a0650480b614706504605a84505a84406504305ee42064f4115843e064f3d064f3b064f39064f3615ba34064f3315ba30064f2f06502e05dd2d09522c05a82b0de907,
  0x10edc3135eb60257b206507e06507606507506507406507305a86e0e1e5b051057064f55064f54064f52064f5106504f06504e06504d06504c15ba4a0650480b614706504605a84505a84406504305ee42064f4115843e064f3d064f3b064f39064f3615ba34064f3315ba30064f2f06502e05dd2d09532c05a82b0de907,
  0x10edc3135eb60257b206507e06507606507506507406507305a86e0e1e5b051057064f55064f54064f52064f5106504f06504e06504d06504c15ba4a0650480b614706504605a84505a84406504305ee42064f4115843e064f3d064f3b064f39064f3615ba34064f3315ba30064f2f06502e05dd2d09712c05a82b0de907,
  0x10edc3135eb60224b206507e06507606507506507406507305b16e0e1e5b051057064f55064f54064f52064f5106504f06504e06504d06504c15884a0650480b5b4706504605b14505b14406504305ee42064f4115743e064f3d064f3b064f39064f36158834064f33158830064f2f06502e05dd2d0a112c05b12b0de907,
  0x10edc3135eb60257b206507e06507606507506507406507305a86e0e1e5b051057064f55064f54064f52064f5106504f06504e06504d06504c15ba4a0650480b614706504605a84505a84406504305ee42064f4115843e064f3d064f3b064f39064f3615ba34064f3315ba30064f2f06502e05dd2d09e92c05a82b0de907,
  0x10edc3135eb60270b206507e06507606507506507406507305a96e0e1e5b051057064f55064f54064f52064f5106504f06504e06504d06504c15bc4a0650480b624706504605a94505a94406504305ee42064f41158b3e064f3d064f3b064f39064f3615bc34064f3315bc30064f2f06502e05dd2d09542c05a92b0de907,
  0x10edc3135eb60270b206507e06507606507506507406507305a96e0e1e5b051057064f55064f54064f52064f5106504f06504e06504d06504c15bc4a0650480b624706504605a94505a94406504305ee42064f41158b3e064f3d064f3b064f39064f3615bc34064f3315bc30064f2f06502e05dd2d09562c05a92b0de907,
  0x10edc3135eb60270b206507e06507606507506507406507305a96e0e1e5b051057064f55064f54064f52064f5106504f06504e06504d06504c15bc4a0650480b624706504605a94505a94406504305ee42064f41158b3e064f3d064f3b064f39064f3615bc34064f3315bc30064f2f06502e05dd2d09572c05a92b0de907,
  0x10edc3135eb60270b206507e06507606507506507406507305a96e0e1e5b051057064f55064f54064f52064f5106504f06504e06504d06504c15bc4a0650480b624706504605a94505a94406504305ee42064f41158b3e064f3d064f3b064f39064f3615bc34064f3315bc30064f2f06502e05dd2d09582c05a92b0de907,
  0x10edc3135eb60270b206507e06507606507506507406507305a96e0e1e5b051057064f55064f54064f52064f5106504f06504e06504d06504c15bc4a0650480b624706504605a94505a94406504305ee42064f41158b3e064f3d064f3b064f39064f3615bc34064f3315bc30064f2f06502e05dd2d095a2c05a92b0de907,
  0x10edc3135eb60270b206507e06507606507506507406507305a96e0e1e5b051057064f55064f54064f52064f5106504f06504e06504d06504c15bc4a0650480b624706504605a94505a94406504305ee42064f41158b3e064f3d064f3b064f39064f3615bc34064f3315bc30064f2f06502e05dd2d095b2c05a92b0de907,
  0x10edc3135eb60270b206507e06507606507506507406507305a96e0e1e5b051057064f55064f54064f52064f5106504f06504e06504d06504c15bc4a0650480b624706504605a94505a94406504305ee42064f41158b3e064f3d064f3b064f39064f3615bc34064f3315bc30064f2f06502e05dd2d095c2c05a92b0de907,
  0x10edc3135eb60270b206507e06507606507506507406507305a96e0e1e5b051057064f55064f54064f52064f5106504f06504e06504d06504c15bc4a0650480b624706504605a94505a94406504305ee42064f41158b3e064f3d064f3b064f39064f3615bc34064f3315bc30064f2f06502e05dd2d095d2c05a92b0de907,
  0x10edc3135eb60270b206507e06507606507506507406507305a96e0e1e5b051057064f55064f54064f52064f5106504f06504e06504d06504c15bc4a0650480b624706504605a94505a94406504305ee42064f41158b3e064f3d064f3b064f39064f3615bc34064f3315bc30064f2f06502e05dd2d095e2c05a92b0de907,
  0x10edc3135eb60270b206507e06507606507506507406507305a96e0e1e5b051057064f55064f54064f52064f5106504f06504e06504d06504c15bc4a0650480b624706504605a94505a94406504305ee42064f41158b3e064f3d064f3b064f39064f3615bc34064f3315bc30064f2f06502e05dd2d095f2c05a92b0de907,
  0x10edc3135eb60270b206507e06507606507506507406507305a96e0e1e5b051057064f55064f54064f52064f5106504f06504e06504d06504c15bc4a0650480b624706504605a94505a94406504305ee42064f41158b3e064f3d064f3b064f39064f3615bc34064f3315bc30064f2f06502e05dd2d09602c05a92b0de907,
  0x10edc3135eb60270b206507e06507606507506507406507305a96e0e1e5b051057064f55064f54064f52064f5106504f06504e06504d06504c15bc4a0650480b624706504605a94505a94406504305ee42064f41158b3e064f3d064f3b064f39064f3615bc34064f3315bc30064f2f06502e05dd2d09612c05a92b0de907,
  0x10edc3135eb60270b206507e06507606507506507406507305a96e0e1e5b051057064f55064f54064f52064f5106504f06504e06504d06504c15bc4a0650480b624706504605a94505a94406504305ee42064f41158b3e064f3d064f3b064f39064f3615bc34064f3315bc30064f2f06502e05dd2d09622c05a92b0de907,
  0x10edc3135eb60270b206507e06507606507506507406507305a96e0e1e5b051057064f55064f54064f52064f5106504f06504e06504d06504c15bc4a0650480b624706504605a94505a94406504305ee42064f41158b3e064f3d064f3b064f39064f3615bc34064f3315bc30064f2f06502e05dd2d09632c05a92b0de907,
  0x10edc3135eb60270b206507e06507606507506507406507305a96e0e1e5b051057064f55064f54064f52064f5106504f06504e06504d06504c15bc4a0650480b624706504605a94505a94406504305ee42064f41158b3e064f3d064f3b064f39064f3615bc34064f3315bc30064f2f06502e05dd2d09642c05a92b0de907,
  0x10edc3135eb60270b206507e06507606507506507406507305a96e0e1e5b051057064f55064f54064f52064f5106504f06504e06504d06504c15bc4a0650480b624706504605a94505a94406504305ee42064f41158b3e064f3d064f3b064f39064f3615bc34064f3315bc30064f2f06502e05dd2d09652c05a92b0de907,
  0x10edc3135eb60270b206507e06507606507506507406507305a96e0e1e5b051057064f55064f54064f52064f5106504f06504e06504d06504c15bc4a0650480b624706504605a94505a94406504305ee42064f41158b3e064f3d064f3b064f39064f3615bc34064f3315bc30064f2f06502e05dd2d09672c05a92b0de907,
  0x10edc3135eb60270b206507e06507606507506507406507305a96e0e1e5b051057064f55064f54064f52064f5106504f06504e06504d06504c15bc4a0650480b624706504605a94505a94406504305ee42064f41158b3e064f3d064f3b064f39064f3615bc34064f3315bc30064f2f06502e05dd2d096b2c05a92b0de907,
  0x10edc3135eb60270b206507e06507606507506507406507305a96e0e1e5b051057064f55064f54064f52064f5106504f06504e06504d06504c15bc4a0650480b624706504605a94505a94406504305ee42064f41158b3e064f3d064f3b064f39064f3615bc34064f3315bc30064f2f06502e05dd2d096c2c05a92b0de907,
  0x10edc3135eb60270b206507e06507606507506507406507305a96e0e1e5b051057064f55064f54064f52064f5106504f06504e06504d06504c15bc4a0650480b624706504605a94505a94406504305ee42064f41158b3e064f3d064f3b064f39064f3615bc34064f3315bc30064f2f06502e05dd2d096d2c05a92b0de907,
  0x10edc3135eb60270b206507e06507606507506507406507305a96e0e1e5b051057064f55064f54064f52064f5106504f06504e06504d06504c15bc4a0650480b624706504605a94505a94406504305ee42064f41158b3e064f3d064f3b064f39064f3615bc34064f3315bc30064f2f06502e05dd2d09752c05a92b0de907,
  0x10edc3135eb60224b206507e06507606507506507406507305b26e0e1e5b051057064f55064f54064f52064f5106504f06504e06504d06504c158f4a0650480b5b4706504605b24505b24406504305ee42064f4115743e064f3d064f3b064f39064f36158f34064f33158f30064f2f06502e05dd2d0a112c05b22b0de907,
  0x10edc3135eb60257b206507e06507606507506507406507305a86e0e1e5b051057064f55064f54064f52064f5106504f06504e06504d06504c15ba4a0650480b614706504605a84505a84406504305ee42064f4115843e064f3d064f3b064f39064f3615ba34064f3315ba30064f2f06502e05dd2d09ea2c05a82b0de907,
  0x10edc3135eb60288b206507e06507606507506507406507305ab6e0e1e5b051057064f55064f54064f52064f5106504f06504e06504d06504c15bd4a0650480b634706504605ab4505ab4406504305ee42064f4115913e064f3d064f3b064f39064f3615bd34064f3315bd30064f2f06502e05dd2d097a2c05ab2b0de907,
  0x10edc3135eb60288b206507e06507606507506507406507305ab6e0e1e5b051057064f55064f54064f52064f5106504f06504e06504d06504c15bd4a0650480b634706504605ab4505ab4406504305ee42064f4115913e064f3d064f3b064f39064f3615bd34064f3315bd30064f2f06502e05dd2d097c2c05ab2b0de907,
  0x10edc3135eb60288b206507e06507606507506507406507305ab6e0e1e5b051057064f55064f54064f52064f5106504f06504e06504d06504c15bd4a0650480b634706504605ab4505ab4406504305ee42064f4115913e064f3d064f3b064f39064f3615bd34064f3315bd30064f2f06502e05dd2d097d2c05ab2b0de907,
  0x10edc3135eb60288b206507e06507606507506507406507305ab6e0e1e5b051057064f55064f54064f52064f5106504f06504e06504d06504c15bd4a0650480b634706504605ab4505ab4406504305ee42064f4115913e064f3d064f3b064f39064f3615bd34064f3315bd30064f2f06502e05dd2d097e2c05ab2b0de907,
  0x10edc3135eb60288b206507e06507606507506507406507305ab6e0e1e5b051057064f55064f54064f52064f5106504f06504e06504d06504c15bd4a0650480b634706504605ab4505ab4406504305ee42064f4115913e064f3d064f3b064f39064f3615bd34064f3315bd30064f2f06502e05dd2d09802c05ab2b0de907,
  0x10edc3135eb60288b206507e06507606507506507406507305ab6e0e1e5b051057064f55064f54064f52064f5106504f06504e06504d06504c15bd4a0650480b634706504605ab4505ab4406504305ee42064f4115913e064f3d064f3b064f39064f3615bd34064f3315bd30064f2f06502e05dd2d09812c05ab2b0de907,
  0x10edc3135eb60288b206507e06507606507506507406507305ab6e0e1e5b051057064f55064f54064f52064f5106504f06504e06504d06504c15bd4a0650480b634706504605ab4505ab4406504305ee42064f4115913e064f3d064f3b064f39064f3615bd34064f3315bd30064f2f06502e05dd2d09822c05ab2b0de907]

/-- The rows of successors 512 to 575. -/
def gotos8 : Array Nat := #[
  0x10edc3135eb60288b206507e06507606507506507406507305ab6e0e1e5b051057064f55064f54064f52064f5106504f06504e06504d06504c15bd4a0650480b634706504605ab4505ab4406504305ee42064f4115913e064f3d064f3b064f39064f3615bd34064f3315bd30064f2f06502e05dd2d09832c05ab2b0de907,
  0x10edc3135eb60288b206507e06507606507506507406507305ab6e0e1e5b051057064f55064f54064f52064f5106504f06504e06504d06504c15bd4a0650480b634706504605ab4505ab4406504305ee42064f4115913e064f3d064f3b064f39064f3615bd34064f3315bd30064f2f06502e05dd2d09842c05ab2b0de907,
  0x10edc3135eb60288b206507e06507606507506507406507305ab6e0e1e5b051057064f55064f54064f52064f5106504f06504e06504d06504c15bd4a0650480b634706504605ab4505ab4406504305ee42064f4115913e064f3d064f3b064f39064f3615bd34064f3315bd30064f2f06502e05dd2d09852c05ab2b0de907,
  0x10edc3135eb60288b206507e06507606507506507406507305ab6e0e1e5b051057064f55064f54064f52064f5106504f06504e06504d06504c15bd4a0650480b634706504605ab4505ab4406504305ee42064f4115913e064f3d064f3b064f39064f3615bd34064f3315bd30064f2f06502e05dd2d09862c05ab2b0de907,
  0x10edc3135eb60288b206507e06507606507506507406507305ab6e0e1e5b051057064f55064f54064f52064f5106504f06504e06504d06504c15bd4a0650480b634706504605ab4505ab4406504305ee42064f4115913e064f3d064f3b064f39064f3615bd34064f3315bd30064f2f06502e05dd2d09872c05ab2b0de907,
  0x10edc3135eb60288b206507e06507606507506507406507305ab6e0e1e5b051057064f55064f54064f52064f5106504f06504e06504d06504c15bd4a0650480b634706504605ab4505ab4406504305ee42064f4115913e064f3d064f3b064f39064f3615bd34064f3315bd30064f2f06502e05dd2d09882c05ab2b0de907,
  0x10edc3135eb60288b206507e06507606507506507406507305ab6e0e1e5b051057064f55064f54064f52064f5106504f06504e06504d06504c15bd4a0650480b634706504605ab4505ab4406504305ee42064f4115913e064f3d064f3b064f39064f3615bd34064f3315bd30064f2f06502e05dd2d09892c05ab2b0de907,
  0x10edc3135eb60288b206507e06507606507506507406507305ab6e0e1e5b051057064f55064f54064f52064f5106504f06504e06504d06504c15bd4a0650480b634706504605ab4505ab4406504305ee42064f4115913e064f3d064f3b064f39064f3615bd34064f3315bd30064f2f06502e05dd2d098a2c05ab2b0de907,
  0x10edc3135eb60288b206507e06507606507506507406507305ab6e0e1e5b051057064f55064f54064f52064f5106504f06504e06504d06504c15bd4a0650480b634706504605ab4505ab4406504305ee42064f4115913e064f3d064f3b064f39064f3615bd34064f3315bd30064f2f06502e05dd2d098b2c05ab2b0de907,
  0x10edc3135eb60288b206507e06507606507506507406507305ab6e0e1e5b051057064f55064f54064f52064f5106504f06504e06504d06504c15bd4a0650480b634706504605ab4505ab4406504305ee42064f4115913e064f3d064f3b064f39064f3615bd34064f3315bd30064f2f06502e05dd2d098d2c05ab2b0de907,
  0x10edc3135eb60288b206507e06507606507506507406507305ab6e0e1e5b051057064f55064f54064f52064f5106504f06504e06504d06504c15bd4a0650480b634706504605ab4505ab4406504305ee42064f4115913e064f3d064f3b064f39064f3615bd34064f3315bd30064f2f06502e05dd2d09912c05ab2b0de907,
  0x10edc3135eb60288b206507e06507606507506507406507305ab6e0e1e5b051057064f55064f54064f52064f5106504f06504e06504d06504c15bd4a0650480b634706504605ab4505ab4406504305ee42064f4115913e064f3d064f3b064f39064f3615bd34064f3315bd30064f2f06502e05dd2d09922c05ab2b0de907,
  0x10edc3135eb60288b206507e06507606507506507406507305ab6e0e1e5b051057064f55064f54064f52064f5106504f06504e06504d06504c15bd4a0650480b634706504605ab4505ab4406504305ee42064f4115913e064f3d064f3b064f39064f3615bd34064f3315bd30064f2f06502e05dd2d09932c05ab2b0de907,
  0x10edc3135eb60288b206507e06507606507506507406507305ab6e0e1e5b051057064f55064f54064f52064f5106504f06504e06504d06504c15bd4a0650480b634706504605ab4505ab4406504305ee42064f4115913e064f3d064f3b064f39064f3615bd34064f3315bd30064f2f06502e05dd2d09952c05ab2b0de907,
  0x10edc3135eb60224b206507e06507606507506507406507305b36e0e1e5b051057064f55064f54064f52064f5106504f06504e06504d06504c15954a0650480b5b4706504605b34505b34406504305ee42064f4115743e064f3d064f3b064f39064f36159534064f33159530064f2f06502e05dd2d0a112c05b32b0de907,
  0x10edc3135eb60257b206507e06507606507506507406507305a86e0e1e5b051057064f55064f54064f52064f5106504f06504e06504d06504c15ba4a0650480b614706504605a84505a84406504305ee42064f4115843e064f3d064f3b064f39064f3615ba34064f3315ba30064f2f06502e05dd2d09eb2c05a82b0de907,
  0x107cc3135eb601d9b208017e08017608017508017408017305756e0e1e5b05105707ff5507ff5407ff5207ff5108014f08014e08014d08014c15994a0801480b644708014605754505754408014307304207ff4115983e07ff3d07ff3b07ff3907ff3615993407ff3315993007ff2f08012e06ce2d08e52c05752b0d3507,
  0x107cc3135eb601d9b208017e08017608017508017408017305756e0e1e5b05105707ff5507ff5407ff5207ff5108014f08014e08014d08014c15994a0801480b644708014605754505754408014307304207ff4115983e07ff3d07ff3b07ff3907ff3615993407ff3315993007ff2f08012e06ce2d08e72c05752b0d3507,
  0x10edc3135eb601f2b206507e06507606507506507406507305346e0e1e5b051057064f55064f54064f52064f5106504f06504e06504d06504c15af4a0650480b564706504605344505344406504305ee42064f41156b3e064f3d064f3b064f39064f3615af34064f3315af30064f2f06502e05dd2d06cd2c05342b0de907,
  0x107cc3135eb6020db208017e08017608017508017408017305526e0e1e5b05105707ff5507ff5407ff5207ff5108014f08014e08014d08014c15b24a0801480b654708014605524505524408014307304207ff4115b13e07ff3d07ff3b07ff3907ff3615b23407ff3315b23007ff2f08012e06ce2d072c2c05522b0d3507,
  0x10edc3135eb6023eb206507e065076065075065074065073056d6e0e1e5b051057064f55064f54064f52064f5106504f06504e06504d06504c15b84a0650480b5c47065046056d45056d4406504305ee42064f41157c3e064f3d064f3b064f39064f3615b834064f3315b830064f2f06502e05dd2d07fd2c056d2b0de907,
  0x10edc3135eb60257b206507e06507606507506507406507305a86e0e1e5b051057064f55064f54064f52064f5106504f06504e06504d06504c15ba4a0650480b614706504605a84505a84406504305ee42064f4115843e064f3d064f3b064f39064f3615ba34064f3315ba30064f2f06502e05dd2d09732c05a82b0de907,
  0x10edc3135eb60270b206507e06507606507506507406507305a96e0e1e5b051057064f55064f54064f52064f5106504f06504e06504d06504c15bc4a0650480b624706504605a94505a94406504305ee42064f41158b3e064f3d064f3b064f39064f3615bc34064f3315bc30064f2f06502e05dd2d09772c05a92b0de907,
  0x10edc3135eb60224b206507e06507606507506507406507305b46e0e1e5b051057064f55064f54064f52064f5106504f06504e06504d06504c159e4a0650480b5b4706504605b44505b44406504305ee42064f4115743e064f3d064f3b064f39064f36159e34064f33159e30064f2f06502e05dd2d0a112c05b42b0de907,
  0x10edc3135eb60257b206507e06507606507506507406507305a86e0e1e5b051057064f55064f54064f52064f5106504f06504e06504d06504c15ba4a0650480b614706504605a84505a84406504305ee42064f4115843e064f3d064f3b064f39064f3615ba34064f3315ba30064f2f06502e05dd2d09ed2c05a82b0de907,
  0x10edc3135eb60224b206507e06507606507506507406507305b56e0e1e5b051057064f55064f54064f52064f5106504f06504e06504d06504c15b64a0650480b5b4706504605b54505b54406504305ee42064f4115743e064f3d064f3b064f39064f3615b634064f3315b630064f2f06502e05dd2d0a112c05b52b0de907,
  0x10edc3135eb60257b206507e06507606507506507406507305a86e0e1e5b051057064f55064f54064f52064f5106504f06504e06504d06504c15ba4a0650480b614706504605a84505a84406504305ee42064f4115843e064f3d064f3b064f39064f3615ba34064f3315ba30064f2f06502e05dd2d09ee2c05a82b0de907,
  0x1121c91120c8135eb60e29630e29620e1e5b0e295114963e,
  0x1121c91306c8135eb60e29630e29620e1e5b0e295114963e,
  0x1121c91120c80eb1c303248703248403248203248003267e03247d03247c03247b03247105105703243c03243a032437032412032411032c06,
  0x1121c91306c80eb1c303248703248403248203248003267e03247d03247c03247b03247105105703243c03243a032437032412032411032c06,
  0xeb1c303248703248403248203248003267e03247d03247c03247b03247105105703243c03243a032437032412032411032506107a03136002,
  0x1121c91120c80a86890e29630e29620e2951, 0x1121c91306c80a86890e29630e29620e2951,
  0x1121c91120c80e29630e29620e2951, 0x1121c91306c80e29630e29620e2951,
  0xeb1c303248703248403248203248003267e03247d03247c03247b03247105105703243c03243a032437032412032411032c06,
  0x1121c91120c8, 0x1121c91306c8,
  0x1070c30fe8870fe8840fe8820fe8800fea7e0fe87d0fe87c0fe87b0fe8710510570fe83c0fe83a0fe8370fe8120fe8110feb06,
  0x135eb60e1e5b15773e, 0x135eb60e1e5b156f3e, 0x135eb60e1e5b14963e, 0x135eb60e1e5b14f73e,
  0x135eb60e1e5b15b53e, 0x135eb60e1e5b158e3e, 0x135eb60e1e5b157f3e, 0x33a2a02ff29,
  0x135eb60e1e5b159d3e, 0x135eb60e1e5b15873e, 0x135eb60e1e5b15943e, 0x3532a, 0x39a14, 0x34f15,
  0xb16c10b18c00b18bf0b16be0b18bd0b18bc147bb60b18b30b18b10b18b00b18af0b18ae0b19ad0b18ac0b18aa0b18a90b18a80b18a10b18a00b169f0b189e0b179c0b169b11379a1137991137981137971137960e30950b0e920c73910b0c8113875e15a15b0b1451149e35134d07,
  0xb16c10b18c00b18bf0b16be0b18bd0b18bc147bb60b18b30b18b10b18b00b18af0b18ae0b19ad0b18ac0b18aa0b18a90b18a80b18a10b18a00b169f0b189e0b179c0b169b13d49a13d49913d49813d49713d4960e30950b0e920c73910b0c8113875e15a15b0b1451149e35134d07,
  0xb16c10b18c00b18bf0b16be0b18bd0b18bc147bb60b18b30b18b10b18b00b18af0b18ae0b19ad0b18ac0b18aa0b18a90b18a80b18a10b18a00b169f0b189e0b179c0b169b130d9a130d99130d98130d97130d960e30950b0e920c73910b0c8113875e15a15b0b1451149e35134d07,
  0xb16c10b18c00b18bf0b16be0b18bd0b18bc147bb60b18b30b18b10b18b00b18af0b18ae0b19ad0b18ac0b18aa0b18a90b18a80b18a10b18a00b169f0b189e0b179c0b169b13239a1323991323981323971323960e30950b0e920c73910b0c8113875e15a15b0b1451149e35134d07,
  0xb16c10b18c00b18bf0b16be0b18bd0b18bc147bb60b18b30b18b10b18b00b18af0b18ae0b19ad0b18ac0b18aa0b18a90b18a80b18a10b18a00b169f0b189e0b179c0b169b132f9a132f99132f98132f97132f960e30950b0e920c73910b0c8113875e15a15b0b1451149e35134d07,
  0xb16c10b18c00b18bf0b16be0b18bd0b18bc147bb60b18b30b18b10b18b00b18af0b18ae0b19ad0b18ac0b18aa0b18a90b18a80b18a10b18a00b169f0b189e0b179c0b169b13379a1337991337981337971337960e30950b0e920c73910b0c8113875e15a15b0b1451149e35134d07,
  0xb16c10b18c00b18bf0b16be0b18bd0b18bc136bb60b18b30b6ab10b18b00b18af0b18ae0b19ad0b18ac0b18aa0b18a90b18a81390a20b18a10b18a00b169f0b189e0b179c0b169b0c7e95138f930c5d920bd2910b0c81149f5b0b1451149e35111707,
  0xb16c10b18c00b18bf0b16be0b18bd0b18bc136bb60b18b30b6ab10b18b00b18af0b18ae0b19ad0b18ac0b18aa0b18a90b18a80b29a20b18a10b18a00b169f0b189e0b179c0b169b0b96950b29930b0e920b0d910b0c81149f5b0b1451149e35111707,
  0xb16c10b18c00b18bf0b16be0b18bd0b18bc136bb60b18b30b6ab10b18b00b18af0b18ae0b19ad0b18ac0b18aa0b18a90b18a80b34a20b18a10b18a00b169f0b189e0b179c0b169b0b9b950b34930b0e920b0d910b0c81149f5b0b1451149e35111707,
  0xcc7c10cc9c00cc9bf0cc7be0cc9bd0cc9bc1473b60cc9b30c66b10cc9b00cc9af0cc9ae0ccaad0cc9ac0cc9aa0cc9a90cc9a80ff8a20cc9a10cc9a00cc79f0cc99e0cc89c0cc79b0d19950ff7930cc2920c28910c4681153e5b0cc551158935133607]

/-- The rows of successors 576 to 639. -/
def gotos9 : Array Nat := #[
  0x75ec10760c00760bf075ebe0760bd0760bc1465b60760b30705b10760b00760af0760ae0761ad0760ac0760aa0760a90760a807a4a20760a10760a0075e9f07609e075f9c075e9b07a59507a493075d9206f89106f78114fe5b075b51155a35130307,
  0x75ec10760c00760bf075ebe0760bd0760bc1465b60760b30705b10760b00760af0760ae0761ad0760ac0760aa0760a90760a807bda20760a10760a0075e9f07609e075f9c075e9b07be9507bd93075d9206f89106f78114fe5b075b51155a35130307,
  0xc17c10c19c00c19bf0c17be0c19bd0c19bc146db60c19b30bfcb10c19b00c19af0c19ae0c1aad0c19ac0c19aa0c19a90c19a80c30a20c19a10c19a00c179f0c199e0c189c0c179b0c31950c30930bf7920b84910ba68115135b0c1551157235131f07,
  0xc17c10c19c00c19bf0c17be0c19bd0c19bc146db60c19b30bfcb10c19b00c19af0c19ae0c1aad0c19ac0c19aa0c19a90c19a80c3ba20c19a10c19a00c179f0c199e0c189c0c179b0c3c950c3b930bf7920b84910ba68115135b0c1551157235131f07,
  0x605c10607c00607bf0605be0607bd0607bc1470b60607b305eab10607b00607af0607ae0608ad0607ac0607aa0607a90607a80629a20607a10607a006059f06079e06069c06059b062a9506299306049205e49105e381152e5b060251157a35132e07,
  0x605c10607c00607bf0605be0607bd0607bc1470b60607b305eab10607b00607af0607ae0608ad0607ac0607aa0607a90607a8063fa20607a10607a006059f06079e06069c06059b064095063f9306049205e49105e381152e5b060251157a35132e07,
  0xcc7c10cc9c00cc9bf0cc7be0cc9bd0cc9bc1473b60cc9b30c66b10cc9b00cc9af0cc9ae0ccaad0cc9ac0cc9aa0cc9a90cc9a80ce1a20cc9a10cc9a00cc79f0cc99e0cc89c0cc79b0ce2950ce1930c6b920c01910c4681153e5b0cc551158935133607,
  0xcc7c10cc9c00cc9bf0cc7be0cc9bd0cc9bc1473b60cc9b30c66b10cc9b00cc9af0cc9ae0ccaad0cc9ac0cc9aa0cc9a90cc9a80ceda20cc9a10cc9a00cc79f0cc99e0cc89c0cc79b0cee950ced930c6b920c01910c4681153e5b0cc551158935133607,
  0xb16c10b18c00b18bf0b16be0b18bd0b18bc1477b60b18b30e0cb10b18b00b18af0b18ae0b19ad0b18ac0b18aa0b18a90b18a80b29a20b18a10b18a00b169f0b189e0b179c0b169b0e7d950b29930b0e920d07910d2f81155b5b0b1451149e35135207,
  0xb16c10b18c00b18bf0b16be0b18bd0b18bc1477b60b18b30e0cb10b18b00b18af0b18ae0b19ad0b18ac0b18aa0b18a90b18a80b34a20b18a10b18a00b169f0b189e0b179c0b169b0e82950b34930b0e920d07910d2f81155b5b0b1451149e35135207,
  0xc17c10c19c00c19bf0c17be0c19bd0c19bc146db60c19b30bfcb10c19b00c19af0c19ae0c1aad0c19ac0c19aa0c19a90c19a80e6ca20c19a10c19a00c179f0c199e0c189c0c179b0c65950e6b930c11920ba5910ba68115135b0c1551157235131f07,
  0xb16c10b18c00b18bf0b16be0b18bd0b18bc147bb60b18b30d32b10b18b00b18af0b18ae0b19ad0b18ac0b18aa0b18a90b18a80b29a20b18a10b18a00b169f0b189e0b179c0b169b0e0d950b29930b0e920c73910b0c8115a15b0b1451149e35134d07,
  0xb16c10b18c00b18bf0b16be0b18bd0b18bc147bb60b18b30d32b10b18b00b18af0b18ae0b19ad0b18ac0b18aa0b18a90b18a80b34a20b18a10b18a00b169f0b189e0b179c0b169b0e10950b34930b0e920c73910b0c8115a15b0b1451149e35134d07,
  0xb16c10b18c00b18bf0b16be0b18bd0b18bc1118b7136bb60b18b30b18b10b18b00b18af0b18ae0b19ad0b18ac0b18aa0b18a90b18a80b18a10b18a00b169f0b189e0b179c0b169b0e23950b0e920b0d910b0c81149f5b0b1451149e35111707,
  0xb16c10b18c00b18bf0b16be0b18bd0b18bc136bb60b18b30b18b10b18b00b18af0b18ae0b19ad0b18ac0b18aa0b18a90b18a80b18a10b18a00b169f0b189e0b179c0b169b0e41950b0e920b0d910b0c81149f5b0b1451149e35111707,
  0xb16c10b18c00b18bf0b16be0b18bd0b18bc136bb60b18b30b18b10b18b00b18af0b18ae0b19ad0b18ac0b18aa0b18a90b18a80b18a10b18a00b169f0b189e0b179c0b169b10a7950b0e920b0d910b0c81149f5b0b1451149e35111707,
  0xb16c10b18c00b18bf0b16be0b18bd0b18bc136bb60b18b30b18b10b18b00b18af0b18ae0b19ad0b18ac0b18aa0b18a90b18a80b18a10b18a00b169f0b189e0b179c0b169b10c8950b0e920b0d910b0c81149f5b0b1451149e35111707,
  0xb16c10b18c00b18bf0b16be0b18bd0b18bc136bb60b18b30b18b10b18b00b18af0b18ae0b19ad0b18ac0b18aa0b18a90b18a80b18a10b18a00b169f0b189e0b179c0b169b10d1950b0e920b0d910b0c81149f5b0b1451149e35111707,
  0xb16c10b18c00b18bf0b16be0b18bd0b18bc136bb60b18b30b18b10b18b00b18af0b18ae0b19ad0b18ac0b18aa0b18a90b18a80b18a10b18a00b169f0b189e0b179c0b169b10d9950b0e920b0d910b0c81149f5b0b1451149e35111707,
  0xb16c10b18c00b18bf0b16be0b18bd0b18bc136bb60b18b30b18b10b18b00b18af0b18ae0b19ad0b18ac0b18aa0b18a90b18a80b18a10b18a00b169f0b189e0b179c0b169b10e1950b0e920b0d910b0c81149f5b0b1451149e35111707,
  0xb16c10b18c00b18bf0b16be0b18bd0b18bc136bb60b18b30b18b10b18b00b18af0b18ae0b19ad0b18ac0b18aa0b18a90b18a80b18a10b18a00b169f0b189e0b179c0b169b0e2d950b0e920b0d910b0c81149f5b0b1451149e35111707,
  0xb16c10b18c00b18bf0b16be0b18bd0b18bc136bb60b18b30b18b10b18b00b18af0b18ae0b19ad0b18ac0b18aa0b18a90b18a80b18a10b18a00b169f0b189e0b179c0b169b0b1c950b0e920b0d910b0c81149f5b0b1451149e35111707,
  0xb16c10b18c00b18bf0b16be0b18bd0b18bc136bb60b18b30b18b10b18b00b18af0b18ae0b19ad0b18ac0b18aa0b18a90b18a80b18a10b18a00b169f0b189e0b179c0b169b0b91950b0e920b0d910b0c81149f5b0b1451149e35111707,
  0xb16c10b18c00b18bf0b16be0b18bd0b18bc136bb60b18b30b18b10b18b00b18af0b18ae0b19ad0b18ac0b18aa0b18a90b18a80b18a10b18a00b169f0b189e0b209c0b169b1138950b0e920b0d910b0c81149f5b0b1451149e35111707,
  0xb16c10b18c00b18bf0b16be0b18bd0b18bc136bb60b18b30b18b10b18b00b18af0b18ae0b19ad0b18ac0b18aa0b18a90b18a80b18a10b18a00b169f0b189e0b219c0b169b1138950b0e920b0d910b0c81149f5b0b1451149e35111707,
  0xb16c10b18c00b18bf0b16be0b18bd0b18bc136bb60b18b30b18b10b18b00b18af0b18ae0b19ad0b18ac0b18aa0b18a90b18a80b18a10b18a00b169f0b189e0b179c0b169b0e23950b0e920b0d910b0c81149f5b0b1451149e35111707,
  0x75ec10760c00760bf075ebe0760bd0760bc1465b60760b30760b10760b00760af0760ae0761ad0760ac0760aa0760a90760a80760a10760a0075e9f07609e075f9c075e9b074095075d9206f89106f78114fe5b075b51155a35130307,
  0x75ec10760c00760bf075ebe0760bd0760bc1465b60760b30760b10760b00760af0760ae0761ad0760ac0760aa0760a90760a80760a10760a0075e9f07609e075f9c075e9b074395075d9206f89106f78114fe5b075b51155a35130307,
  0xc17c10c19c00c19bf0c17be0c19bd0c19bc146db60c19b30c19b10c19b00c19af0c19ae0c1aad0c19ac0c19aa0c19a90c19a80c19a10c19a00c179f0c199e0c189c0c179b0ecc950bf7920b84910ba68115135b0c1551157235131f07,
  0xc17c10c19c00c19bf0c17be0c19bd0c19bc146db60c19b30c19b10c19b00c19af0c19ae0c1aad0c19ac0c19aa0c19a90c19a80c19a10c19a00c179f0c199e0c189c0c179b0c65950c11920ba5910ba68115135b0c1551157235131f07,
  0xb16c10b18c00b18bf0b16be0b18bd0b18bc136bb60b18b30b18b10b18b00b18af0b18ae0b19ad0b18ac0b18aa0b18a90b18a80b18a10b18a010a49f0b189e0edd9c0b169b1138950b0e920b0d910b0c81149f5b0b1451149e35111707,
  0xb16c10b18c00b18bf0b16be0b18bd0b18bc136bb60b18b30b18b10b18b00b18af0b18ae0b19ad0b18ac0b18aa0b18a90b18a80b18a10b18a00b169f0b189e0b179c0b169b0edf950b0e920b0d910b0c81149f5b0b1451149e35111707,
  0xb16c10b18c00b18bf0b16be0b18bd0b18bc136bb60b18b30b18b10b18b00b18af0b18ae0b19ad0b18ac0b18aa0b18a90b18a80b18a10b18a00b169f0b189e0b179c0b169b0e40950b0e920b0d910b0c81149f5b0b1451149e35111707,
  0xb16c10b18c00b18bf0b16be0b18bd0b18bc136bb60b18b30b18b10b18b00b18af0b18ae0b19ad0b18ac0b18aa0b18a90b18a80b18a10b18a00b169f0b189e0b179c0b169b0b2a950b0e920b0d910b0c81149f5b0b1451149e35111707,
  0xb16c10b18c00b18bf0b16be0b18bd0b18bc136bb60b18b30b18b10b18b00b18af0b18ae0b19ad0b18ac0b18aa0b18a90b18a80b18a10b18a00b169f0b189e0b179c0b169b0b97950b0e920b0d910b0c81149f5b0b1451149e35111707,
  0xb16c10b18c00b18bf0b16be0b18bd0b18bc147bb60b18b30b18b10b18b00b18af0b18ae0b19ad0b18ac0b18aa0b18a90b18a80b18a10b18a00b169f0b189e0b179c0b169b10a5950b0e920c73910b0c8115a15b0b1451149e35134d07,
  0xc17c10c19c00c19bf0c17be0c19bd0c19bc146db60c19b30c19b10c19b00c19af0c19ae0c1aad0c19ac0c19aa0c19a90c19a80c19a10c19a00c179f0c199e0c189c0c179b0ee4950bf7920b84910ba68115135b0c1551157235131f07,
  0xb16c10b18c00b18bf0b16be0b18bd0b18bc136bb60b18b30b18b10b18b00b18af0b18ae0b19ad0b18ac0b18aa0b18a90b18a80b18a10b18a00b169f0b189e0b179c0b169b0b32950b0e920b0d910b0c81149f5b0b1451149e35111707,
  0xb16c10b18c00b18bf0b16be0b18bd0b18bc136bb60b18b30b18b10b18b00b18af0b18ae0b19ad0b18ac0b18aa0b18a90b18a80b18a10b18a00b169f0b189e0b179c0b169b0b9a950b0e920b0d910b0c81149f5b0b1451149e35111707,
  0xb16c10b18c00b18bf0b16be0b18bd0b18bc136bb60b18b30b18b10b18b00b18af0b18ae0b19ad0b18ac0b18aa0b18a90b18a80b18a10b18a00b169f0b189e0b179c0b169b0b9c950b0e920b0d910b0c81149f5b0b1451149e35111707,
  0xb16c10b18c00b18bf0b16be0b18bd0b18bc136bb60b18b30b18b10b18b00b18af0b18ae0b19ad0b18ac0b18aa0b18a90b18a80b18a10b18a00b169f0b189e0b179c0b169b0b9d950b0e920b0d910b0c81149f5b0b1451149e35111707,
  0xb16c10b18c00b18bf0b16be0b18bd0b18bc136bb60b18b30b18b10b18b00b18af0b18ae0b19ad0b18ac0b18aa0b18a90b18a80b18a10b18a00b169f0b189e0b179c0b169b10b0950b0e920b0d910b0c81149f5b0b1451149e35111707,
  0xb16c10b18c00b18bf0b16be0b18bd0b18bc1477b60b18b30b18b10b18b00b18af0b18ae0b19ad0b18ac0b18aa0b18a90b18a80b18a10b18a00b169f0b189e0b179c0b169b0efb950b0e920d07910d2f81155b5b0b1451149e35135207,
  0xb16c10b18c00b18bf0b16be0b18bd0b18bc136bb60b18b30b18b10b18b00b18af0b18ae0b19ad0b18ac0b18aa0b18a90b18a80b18a10b18a00b169f0b189e0b179c0b169b10b1950b0e920b0d910b0c81149f5b0b1451149e35111707,
  0xb16c10b18c00b18bf0b16be0b18bd0b18bc136bb60b18b30b18b10b18b00b18af0b18ae0b19ad0b18ac0b18aa0b18a90b18a80b18a10b18a00b169f0b189e0b179c0b169b0b36950b0e920b0d910b0c81149f5b0b1451149e35111707,
  0xb16c10b18c00b18bf0b16be0b18bd0b18bc136bb60b18b30b18b10b18b00b18af0b18ae0b19ad0b18ac0b18aa0b18a90b18a80b18a10b18a00b169f0b189e0b179c0b169b0b37950b0e920b0d910b0c81149f5b0b1451149e35111707,
  0xb16c10b18c00b18bf0b16be0b18bd0b18bc136bb60b18b30b18b10b18b00b18af0b18ae0b19ad0b18ac0b18aa0b18a90b18a80b18a10b18a00b169f0b189e0b179c0b169b10b2950b0e920b0d910b0c81149f5b0b1451149e35111707,
  0xc17c10c19c00c19bf0c17be0c19bd0c19bc146db60c19b30c19b10c19b00c19af0c19ae0c1aad0c19ac0c19aa0c19a90c19a80c19a10c19a00c179f0c199e0c189c0c179b0f11950bf7920b84910ba68115135b0c1551157235131f07,
  0xc17c10c19c00c19bf0c17be0c19bd0c19bc146db60c19b30c19b10c19b00c19af0c19ae0c1aad0c19ac0c19aa0c19a90c19a80c19a10c19a00c179f0c199e0c189c0c179b0d11950bf7920b84910ba68115135b0c1551157235131f07,
  0xc17c10c19c00c19bf0c17be0c19bd0c19bc146db60c19b30c19b10c19b00c19af0c19ae0c1aad0c19ac0c19aa0c19a90c19a80c19a10c19a00c179f0c199e0c189c0c179b0d12950bf7920b84910ba68115135b0c1551157235131f07,
  0xc17c10c19c00c19bf0c17be0c19bd0c19bc146db60c19b30c19b10c19b00c19af0c19ae0c1aad0c19ac0c19aa0c19a90c19a80c19a10c19a00c179f0c199e0c189c0c179b0d13950bf7920b84910ba68115135b0c1551157235131f07,
  0xb16c10b18c00b18bf0b16be0b18bd0b18bc136bb60b18b30b18b10b18b00b18af0b18ae0b19ad0b18ac0b18aa0b18a90b18a80b18a10b18a00b169f0b189e0b179c0b169b10b5950b0e920b0d910b0c81149f5b0b1451149e35111707,
  0xb16c10b18c00b18bf0b16be0b18bd0b18bc136bb60b18b30b18b10b18b00b18af0b18ae0b19ad0b18ac0b18aa0b18a90b18a80b18a10b18a00b169f0b189e0b179c0b169b10b6950b0e920b0d910b0c81149f5b0b1451149e35111707,
  0xb16c10b18c00b18bf0b16be0b18bd0b18bc136bb60b18b30b18b10b18b00b18af0b18ae0b19ad0b18ac0b18aa0b18a90b18a80b18a10b18a00b169f0b189e0b179c0b169b0b38950b0e920b0d910b0c81149f5b0b1451149e35111707,
  0xb16c10b18c00b18bf0b16be0b18bd0b18bc136bb60b18b30b18b10b18b00b18af0b18ae0b19ad0b18ac0b18aa0b18a90b18a80b18a10b18a00b169f0b189e0b179c0b169b10b7950b0e920b0d910b0c81149f5b0b1451149e35111707,
  0xb16c10b18c00b18bf0b16be0b18bd0b18bc136bb60b18b30b18b10b18b00b18af0b18ae0b19ad0b18ac0b18aa0b18a90b18a80b18a10b18a00b169f0b189e0b179c0b169b10b8950b0e920b0d910b0c81149f5b0b1451149e35111707,
  0xb16c10b18c00b18bf0b16be0b18bd0b18bc136bb60b18b30b18b10b18b00b18af0b18ae0b19ad0b18ac0b18aa0b18a90b18a80b18a10b18a00b169f0b189e0b179c0b169b10b9950b0e920b0d910b0c81149f5b0b1451149e35111707,
  0xb16c10b18c00b18bf0b16be0b18bd0b18bc136bb60b18b30b18b10b18b00b18af0b18ae0b19ad0b18ac0b18aa0b18a90b18a80b18a10b18a00b169f0b189e0b179c0b169b0ba3950b0e920b0d910b0c81149f5b0b1451149e35111707,
  0x75ec10760c00760bf075ebe0760bd0760bc1465b60760b30760b10760b00760af0760ae0761ad0760ac0760aa0760a90760a80760a10760a0075e9f07609e075f9c075e9b077095075d9206f89106f78114fe5b075b51155a35130307,
  0x75ec10760c00760bf075ebe0760bd0760bc1465b60760b30760b10760b00760af0760ae0761ad0760ac0760aa0760a90760a80760a10760a0075e9f07609e075f9c075e9b077195075d9206f89106f78114fe5b075b51155a35130307,
  0x75ec10760c00760bf075ebe0760bd0760bc1465b60760b30760b10760b00760af0760ae0761ad0760ac0760aa0760a90760a80760a10760a0075e9f07609e075f9c075e9b077595075d9206f89106f78114fe5b075b51155a35130307,
  0xb16c10760c00760bf0b16be0760bd0760bc136bb60760b30760b10760b00760af0760ae0761ad0760ac0760aa0760a90760a80760a10760a00b169f07609e07769c0b169b130e950b0e920b0d9106f781149f5b075b51155a35111707,
  0xb16c10760c00760bf0b16be0760bd0760bc136bb60760b30760b10760b00760af0760ae0761ad0760ac0760aa0760a90760a80760a10760a00b169f07609e07789c0b169b130e950b0e920b0d9106f781149f5b075b51155a35111707,
  0xb16c10b18c00b18bf0b16be0b18bd0b18bc136bb60b18b30b18b10b18b00b18af0b18ae0b19ad0b18ac0b18aa0b18a90b18a80b18a10b18a00b169f0b189e0b179c0b169b0c7e950c5d920bd2910b0c81149f5b0b1451149e35111707]

/-- The rows of successors 640 to 703. -/
def gotos10 : Array Nat := #[
  0x75ec10760c00760bf075ebe0760bd0760bc1465b60760b30760b10760b00760af0760ae0761ad0760ac0760aa0760a90760a80760a10760a0075e9f07609e075f9c075e9b07ab95075d9206f89106f78114fe5b075b51155a35130307,
  0x75ec10760c00760bf075ebe0760bd0760bc1465b60760b30760b10760b00760af0760ae0761ad0760ac0760aa0760a90760a80760a10760a0075e9f07609e075f9c075e9b07ac95075d9206f89106f78114fe5b075b51155a35130307,
  0x75ec10760c00760bf075ebe0760bd0760bc1465b60760b30760b10760b00760af0760ae0761ad0760ac0760aa0760a90760a80760a10760a0075e9f07609e075f9c075e9b07b995075d9206f89106f78114fe5b075b51155a35130307,
  0x75ec10760c00760bf075ebe0760bd0760bc1465b60760b30760b10760b00760af0760ae0761ad0760ac0760aa0760a90760a80760a10760a0075e9f07609e075f9c075e9b07ba95075d9206f89106f78114fe5b075b51155a35130307,
  0xcc7c10cc9c00cc9bf0cc7be0cc9bd0cc9bc1473b60cc9b30cc9b10cc9b00cc9af0cc9ae0ccaad0cc9ac0cc9aa0cc9a90cc9a80cc9a10cc9a00cc79f0cc99e0cc89c0cc79b0cbf950c6b920c01910c4681153e5b0cc551158935133607,
  0xcc7c10cc9c00cc9bf0cc7be0cc9bd0cc9bc1473b60cc9b30cc9b10cc9b00cc9af0cc9ae0ccaad0cc9ac0cc9aa0cc9a90cc9a80cc9a10cc9a00cc79f0cc99e0cc89c0cc79b0cc0950c6b920c01910c4681153e5b0cc551158935133607,
  0x75ec10760c00760bf075ebe0760bd0760bc1465b60760b30760b10760b00760af0760ae0761ad0760ac0760aa0760a90760a80760a10760a0075e9f07609e075f9c075e9b07c295075d9206f89106f78114fe5b075b51155a35130307,
  0x75ec10760c00760bf075ebe0760bd0760bc1465b60760b30760b10760b00760af0760ae0761ad0760ac0760aa0760a90760a80760a10760a0075e9f07609e075f9c075e9b07c395075d9206f89106f78114fe5b075b51155a35130307,
  0x75ec10760c00760bf075ebe0760bd0760bc1465b60760b30760b10760b00760af0760ae0761ad0760ac0760aa0760a90760a80760a10760a0075e9f07609e075f9c075e9b07c595075d9206f89106f78114fe5b075b51155a35130307,
  0x75ec10760c00760bf075ebe0760bd0760bc1465b60760b30760b10760b00760af0760ae0761ad0760ac0760aa0760a90760a80760a10760a0075e9f07609e075f9c075e9b07c695075d9206f89106f78114fe5b075b51155a35130307,
  0xc17c10c19c00c19bf0c17be0c19bd0c19bc146db60c19b30c19b10c19b00c19af0c19ae0c1aad0c19ac0c19aa0c19a90c19a80c19a10c19a00c179f0c199e0c189c0c179b0c1e950bf7920b84910ba68115135b0c1551157235131f07,
  0xc17c10c19c00c19bf0c17be0c19bd0c19bc146db60c19b30c19b10c19b00c19af0c19ae0c1aad0c19ac0c19aa0c19a90c19a80c19a10c19a00c179f0c199e0c189c0c179b0c1f950bf7920b84910ba68115135b0c1551157235131f07,
  0xb16c10c19c00c19bf0b16be0c19bd0c19bc136bb60c19b30c19b10c19b00c19af0c19ae0c1aad0c19ac0c19aa0c19a90c19a80c19a10c19a00b169f0c199e0c249c0b169b1324950b0e920b0d910ba681149f5b0c1551157235111707,
  0xb16c10c19c00c19bf0b16be0c19bd0c19bc136bb60c19b30c19b10c19b00c19af0c19ae0c1aad0c19ac0c19aa0c19a90c19a80c19a10c19a00b169f0c199e0c269c0b169b1324950b0e920b0d910ba681149f5b0c1551157235111707,
  0xc17c10c19c00c19bf0c17be0c19bd0c19bc146db60c19b30c19b10c19b00c19af0c19ae0c1aad0c19ac0c19aa0c19a90c19a80c19a10c19a00c179f0c199e0c189c0c179b0c32950bf7920b84910ba68115135b0c1551157235131f07,
  0xc17c10c19c00c19bf0c17be0c19bd0c19bc146db60c19b30c19b10c19b00c19af0c19ae0c1aad0c19ac0c19aa0c19a90c19a80c19a10c19a00c179f0c199e0c189c0c179b0c33950bf7920b84910ba68115135b0c1551157235131f07,
  0xc17c10c19c00c19bf0c17be0c19bd0c19bc146db60c19b30c19b10c19b00c19af0c19ae0c1aad0c19ac0c19aa0c19a90c19a80c19a10c19a00c179f0c199e0c189c0c179b0c38950bf7920b84910ba68115135b0c1551157235131f07,
  0xc17c10c19c00c19bf0c17be0c19bd0c19bc146db60c19b30c19b10c19b00c19af0c19ae0c1aad0c19ac0c19aa0c19a90c19a80c19a10c19a00c179f0c199e0c189c0c179b0c39950bf7920b84910ba68115135b0c1551157235131f07,
  0x75ec10760c00760bf075ebe0760bd0760bc1465b60760b30760b10760b00760af0760ae0761ad0760ac0760aa0760a90760a80760a10760a0075e9f07609e075f9c075e9b07d095075d9206f89106f78114fe5b075b51155a35130307,
  0x75ec10760c00760bf075ebe0760bd0760bc1465b60760b30760b10760b00760af0760ae0761ad0760ac0760aa0760a90760a80760a10760a0075e9f07609e075f9c075e9b07d195075d9206f89106f78114fe5b075b51155a35130307,
  0xc17c10c19c00c19bf0c17be0c19bd0c19bc146db60c19b30c19b10c19b00c19af0c19ae0c1aad0c19ac0c19aa0c19a90c19a80c19a10c19a00c179f0c199e0c189c0c179b0c41950bf7920b84910ba68115135b0c1551157235131f07,
  0xc17c10c19c00c19bf0c17be0c19bd0c19bc146db60c19b30c19b10c19b00c19af0c19ae0c1aad0c19ac0c19aa0c19a90c19a80c19a10c19a00c179f0c199e0c189c0c179b0c42950bf7920b84910ba68115135b0c1551157235131f07,
  0xc17c10c19c00c19bf0c17be0c19bd0c19bc146db60c19b30c19b10c19b00c19af0c19ae0c1aad0c19ac0c19aa0c19a90c19a80c19a10c19a00c179f0c199e0c189c0c179b0c44950bf7920b84910ba68115135b0c1551157235131f07,
  0xc17c10c19c00c19bf0c17be0c19bd0c19bc146db60c19b30c19b10c19b00c19af0c19ae0c1aad0c19ac0c19aa0c19a90c19a80c19a10c19a00c179f0c199e0c189c0c179b0c45950bf7920b84910ba68115135b0c1551157235131f07,
  0x605c10607c00607bf0605be0607bd0607bc1470b60607b30607b10607b00607af0607ae0608ad0607ac0607aa0607a90607a80607a10607a006059f06079e06069c06059b060f9506049205e49105e381152e5b060251157a35132e07,
  0x605c10607c00607bf0605be0607bd0607bc1470b60607b30607b10607b00607af0607ae0608ad0607ac0607aa0607a90607a80607a10607a006059f06079e06069c06059b06109506049205e49105e381152e5b060251157a35132e07,
  0x605c10607c00607bf0605be0607bd0607bc1470b60607b30607b10607b00607af0607ae0608ad0607ac0607aa0607a90607a80607a10607a006059f06079e06069c06059b06149506049205e49105e381152e5b060251157a35132e07,
  0xb16c10607c00607bf0b16be0607bd0607bc136bb60607b30607b10607b00607af0607ae0608ad0607ac0607aa0607a90607a80607a10607a00b169f06079e06159c0b169b1330950b0e920b0d9105e381149f5b060251157a35111707,
  0xb16c10607c00607bf0b16be0607bd0607bc136bb60607b30607b10607b00607af0607ae0608ad0607ac0607aa0607a90607a80607a10607a00b169f06079e06179c0b169b1330950b0e920b0d9105e381149f5b060251157a35111707,
  0x605c10607c00607bf0605be0607bd0607bc1470b60607b30607b10607b00607af0607ae0608ad0607ac0607aa0607a90607a80607a10607a006059f06079e06069c06059b062f9506049205e49105e381152e5b060251157a35132e07,
  0x605c10607c00607bf0605be0607bd0607bc1470b60607b30607b10607b00607af0607ae0608ad0607ac0607aa0607a90607a80607a10607a006059f06079e06069c06059b06309506049205e49105e381152e5b060251157a35132e07,
  0x605c10607c00607bf0605be0607bd0607bc1470b60607b30607b10607b00607af0607ae0608ad0607ac0607aa0607a90607a80607a10607a006059f06079e06069c06059b063c9506049205e49105e381152e5b060251157a35132e07,
  0x605c10607c00607bf0605be0607bd0607bc1470b60607b30607b10607b00607af0607ae0608ad0607ac0607aa0607a90607a80607a10607a006059f06079e06069c06059b063d9506049205e49105e381152e5b060251157a35132e07,
  0x605c10607c00607bf0605be0607bd0607bc1470b60607b30607b10607b00607af0607ae0608ad0607ac0607aa0607a90607a80607a10607a006059f06079e06069c06059b06439506049205e49105e381152e5b060251157a35132e07,
  0x605c10607c00607bf0605be0607bd0607bc1470b60607b30607b10607b00607af0607ae0608ad0607ac0607aa0607a90607a80607a10607a006059f06079e06069c06059b06449506049205e49105e381152e5b060251157a35132e07,
  0x605c10607c00607bf0605be0607bd0607bc1470b60607b30607b10607b00607af0607ae0608ad0607ac0607aa0607a90607a80607a10607a006059f06079e06069c06059b06469506049205e49105e381152e5b060251157a35132e07,
  0x605c10607c00607bf0605be0607bd0607bc1470b60607b30607b10607b00607af0607ae0608ad0607ac0607aa0607a90607a80607a10607a006059f06079e06069c06059b06479506049205e49105e381152e5b060251157a35132e07,
  0xcc7c10cc9c00cc9bf0cc7be0cc9bd0cc9bc1473b60cc9b30cc9b10cc9b00cc9af0cc9ae0ccaad0cc9ac0cc9aa0cc9a90cc9a80cc9a10cc9a00cc79f0cc99e0cc89c0cc79b0ccf950c6b920c01910c4681153e5b0cc551158935133607,
  0xcc7c10cc9c00cc9bf0cc7be0cc9bd0cc9bc1473b60cc9b30cc9b10cc9b00cc9af0cc9ae0ccaad0cc9ac0cc9aa0cc9a90cc9a80cc9a10cc9a00cc79f0cc99e0cc89c0cc79b0cd0950c6b920c01910c4681153e5b0cc551158935133607,
  0xcc7c10cc9c00cc9bf0cc7be0cc9bd0cc9bc1473b60cc9b30cc9b10cc9b00cc9af0cc9ae0ccaad0cc9ac0cc9aa0cc9a90cc9a80cc9a10cc9a00cc79f0cc99e0cc89c0cc79b0cd4950c6b920c01910c4681153e5b0cc551158935133607,
  0xb16c10cc9c00cc9bf0b16be0cc9bd0cc9bc136bb60cc9b30cc9b10cc9b00cc9af0cc9ae0ccaad0cc9ac0cc9aa0cc9a90cc9a80cc9a10cc9a00b169f0cc99e0cd59c0b169b1338950b0e920b0d910c4681149f5b0cc551158935111707,
  0xb16c10cc9c00cc9bf0b16be0cc9bd0cc9bc136bb60cc9b30cc9b10cc9b00cc9af0cc9ae0ccaad0cc9ac0cc9aa0cc9a90cc9a80cc9a10cc9a00b169f0cc99e0cd79c0b169b1338950b0e920b0d910c4681149f5b0cc551158935111707,
  0xcc7c10cc9c00cc9bf0cc7be0cc9bd0cc9bc1473b60cc9b30cc9b10cc9b00cc9af0cc9ae0ccaad0cc9ac0cc9aa0cc9a90cc9a80cc9a10cc9a00cc79f0cc99e0cc89c0cc79b0ce4950c6b920c01910c4681153e5b0cc551158935133607,
  0xcc7c10cc9c00cc9bf0cc7be0cc9bd0cc9bc1473b60cc9b30cc9b10cc9b00cc9af0cc9ae0ccaad0cc9ac0cc9aa0cc9a90cc9a80cc9a10cc9a00cc79f0cc99e0cc89c0cc79b0ce5950c6b920c01910c4681153e5b0cc551158935133607,
  0xcc7c10cc9c00cc9bf0cc7be0cc9bd0cc9bc1473b60cc9b30cc9b10cc9b00cc9af0cc9ae0ccaad0cc9ac0cc9aa0cc9a90cc9a80cc9a10cc9a00cc79f0cc99e0cc89c0cc79b0ce9950c6b920c01910c4681153e5b0cc551158935133607,
  0xcc7c10cc9c00cc9bf0cc7be0cc9bd0cc9bc1473b60cc9b30cc9b10cc9b00cc9af0cc9ae0ccaad0cc9ac0cc9aa0cc9a90cc9a80cc9a10cc9a00cc79f0cc99e0cc89c0cc79b0cea950c6b920c01910c4681153e5b0cc551158935133607,
  0xcc7c10cc9c00cc9bf0cc7be0cc9bd0cc9bc1473b60cc9b30cc9b10cc9b00cc9af0cc9ae0ccaad0cc9ac0cc9aa0cc9a90cc9a80cc9a10cc9a00cc79f0cc99e0cc89c0cc79b0cf1950c6b920c01910c4681153e5b0cc551158935133607,
  0xcc7c10cc9c00cc9bf0cc7be0cc9bd0cc9bc1473b60cc9b30cc9b10cc9b00cc9af0cc9ae0ccaad0cc9ac0cc9aa0cc9a90cc9a80cc9a10cc9a00cc79f0cc99e0cc89c0cc79b0cf2950c6b920c01910c4681153e5b0cc551158935133607,
  0xcc7c10cc9c00cc9bf0cc7be0cc9bd0cc9bc1473b60cc9b30cc9b10cc9b00cc9af0cc9ae0ccaad0cc9ac0cc9aa0cc9a90cc9a80cc9a10cc9a00cc79f0cc99e0cc89c0cc79b0cf4950c6b920c01910c4681153e5b0cc551158935133607,
  0xcc7c10cc9c00cc9bf0cc7be0cc9bd0cc9bc1473b60cc9b30cc9b10cc9b00cc9af0cc9ae0ccaad0cc9ac0cc9aa0cc9a90cc9a80cc9a10cc9a00cc79f0cc99e0cc89c0cc79b0cf5950c6b920c01910c4681153e5b0cc551158935133607,
  0xb16c10b18c00b18bf0b16be0b18bd0b18bc1477b60b18b30b18b10b18b00b18af0b18ae0b19ad0b18ac0b18aa0b18a90b18a80b18a10b18a00b169f0b189e0b179c0b169b0b1c950b0e920d07910d2f81155b5b0b1451149e35135207,
  0xb16c10b18c00b18bf0b16be0b18bd0b18bc1477b60b18b30b18b10b18b00b18af0b18ae0b19ad0b18ac0b18aa0b18a90b18a80b18a10b18a00b169f0b189e0b179c0b169b0ea1950b0e920d07910d2f81155b5b0b1451149e35135207,
  0xb16c10b18c00b18bf0b16be0b18bd0b18bc1477b60b18b30b18b10b18b00b18af0b18ae0b19ad0b18ac0b18aa0b18a90b18a80b18a10b18a00b169f0b189e0b179c0b169b0ea2950b0e920d07910d2f81155b5b0b1451149e35135207,
  0xb16c10b18c00b18bf0b16be0b18bd0b18bc136bb60b18b30b18b10b18b00b18af0b18ae0b19ad0b18ac0b18aa0b18a90b18a80b18a10b18a00b169f0b189e0b209c0b169b1351950b0e920b0d910d2f81149f5b0b1451149e35111707,
  0xb16c10b18c00b18bf0b16be0b18bd0b18bc136bb60b18b30b18b10b18b00b18af0b18ae0b19ad0b18ac0b18aa0b18a90b18a80b18a10b18a00b169f0b189e0b219c0b169b1351950b0e920b0d910d2f81149f5b0b1451149e35111707,
  0xb16c10b18c00b18bf0b16be0b18bd0b18bc136bb60b18b30b18b10b18b00b18af0b18ae0b19ad0b18ac0b18aa0b18a90b18a80b18a10b18a00b169f0b189e0b179c0b169b0e76950b0e920b0d910b0c81149f5b0b1451149e35111707,
  0x605c10607c00607bf0605be0607bd0607bc1470b60607b30607b10607b00607af0607ae0608ad0607ac0607aa0607a90607a80607a10607a006059f06079e06069c06059b05f29506049205e49105e381152e5b060251157a35132e07,
  0x605c10607c00607bf0605be0607bd0607bc1470b60607b30607b10607b00607af0607ae0608ad0607ac0607aa0607a90607a80607a10607a006059f06079e06069c06059b05f39506049205e49105e381152e5b060251157a35132e07,
  0xb16c10b18c00b18bf0b16be0b18bd0b18bc1477b60b18b30b18b10b18b00b18af0b18ae0b19ad0b18ac0b18aa0b18a90b18a80b18a10b18a00b169f0b189e0b179c0b169b0b2a950b0e920d07910d2f81155b5b0b1451149e35135207,
  0xb16c10b18c00b18bf0b16be0b18bd0b18bc1477b60b18b30b18b10b18b00b18af0b18ae0b19ad0b18ac0b18aa0b18a90b18a80b18a10b18a00b169f0b189e0b179c0b169b0e7e950b0e920d07910d2f81155b5b0b1451149e35135207,
  0xb16c10b18c00b18bf0b16be0b18bd0b18bc1477b60b18b30b18b10b18b00b18af0b18ae0b19ad0b18ac0b18aa0b18a90b18a80b18a10b18a00b169f0b189e0b179c0b169b0b32950b0e920d07910d2f81155b5b0b1451149e35135207,
  0xb16c10b18c00b18bf0b16be0b18bd0b18bc1477b60b18b30b18b10b18b00b18af0b18ae0b19ad0b18ac0b18aa0b18a90b18a80b18a10b18a00b169f0b189e0b179c0b169b0e81950b0e920d07910d2f81155b5b0b1451149e35135207,
  0xb16c10b18c00b18bf0b16be0b18bd0b18bc1477b60b18b30b18b10b18b00b18af0b18ae0b19ad0b18ac0b18aa0b18a90b18a80b18a10b18a00b169f0b189e0b179c0b169b0e83950b0e920d07910d2f81155b5b0b1451149e35135207,
  0xb16c10b18c00b18bf0b16be0b18bd0b18bc1477b60b18b30b18b10b18b00b18af0b18ae0b19ad0b18ac0b18aa0b18a90b18a80b18a10b18a00b169f0b189e0b179c0b169b0e84950b0e920d07910d2f81155b5b0b1451149e35135207]

/-- The rows of successors 704 to 767. -/
def gotos11 : Array Nat := #[
  0xb16c10b18c00b18bf0b16be0b18bd0b18bc1477b60b18b30b18b10b18b00b18af0b18ae0b19ad0b18ac0b18aa0b18a90b18a80b18a10b18a00b169f0b189e0b179c0b169b0b36950b0e920d07910d2f81155b5b0b1451149e35135207,
  0xb16c10b18c00b18bf0b16be0b18bd0b18bc1477b60b18b30b18b10b18b00b18af0b18ae0b19ad0b18ac0b18aa0b18a90b18a80b18a10b18a00b169f0b189e0b179c0b169b0b37950b0e920d07910d2f81155b5b0b1451149e35135207,
  0xb16c10b18c00b18bf0b16be0b18bd0b18bc1477b60b18b30b18b10b18b00b18af0b18ae0b19ad0b18ac0b18aa0b18a90b18a80b18a10b18a00b169f0b189e0b179c0b169b0b38950b0e920d07910d2f81155b5b0b1451149e35135207,
  0xb16c10b18c00b18bf0b16be0b18bd0b18bc1477b60b18b30b18b10b18b00b18af0b18ae0b19ad0b18ac0b18aa0b18a90b18a80b18a10b18a00b169f0b189e0b179c0b169b0e88950b0e920d07910d2f81155b5b0b1451149e35135207,
  0xc17c10c19c00c19bf0c17be0c19bd0c19bc146db60c19b30c19b10c19b00c19af0c19ae0c1aad0c19ac0c19aa0c19a90c19a80c19a10c19a00c179f0c199e0c189c0c179b0c3d950bf7920b84910ba68115135b0c1551157235131f07,
  0xc17c10c19c00c19bf0c17be0c19bd0c19bc146db60c19b30c19b10c19b00c19af0c19ae0c1aad0c19ac0c19aa0c19a90c19a80c19a10c19a00c179f0c199e0c189c0c179b0c3e950bf7920b84910ba68115135b0c1551157235131f07,
  0xb16c10b18c00b18bf0b16be0b18bd0b18bc136bb60b18b30b18b10b18b00b18af0b18ae0b19ad0b18ac0b18aa0b18a90b18a80b18a10b18a00b169f0b189e0b179c0b169b0e8a950b0e920b0d910b0c81149f5b0b1451149e35111707,
  0x605c10607c00607bf0605be0607bd0607bc1470b60607b30607b10607b00607af0607ae0608ad0607ac0607aa0607a90607a80607a10607a006059f06079e06069c06059b06499506049205e49105e381152e5b060251157a35132e07,
  0x605c10607c00607bf0605be0607bd0607bc1470b60607b30607b10607b00607af0607ae0608ad0607ac0607aa0607a90607a80607a10607a006059f06079e06069c06059b064a9506049205e49105e381152e5b060251157a35132e07,
  0xb16c10b18c00b18bf0b16be0b18bd0b18bc136bb60b18b30b18b10b18b00b18af0b18ae0b19ad0b18ac0b18aa0b18a90b18a80b18a10b18a00b169f0b189e0b179c0b169b0e8f950b0e920b0d910b0c81149f5b0b1451149e35111707,
  0xb16c10b18c00b18bf0b16be0b18bd0b18bc136bb60b18b30b18b10b18b00b18af0b18ae0b19ad0b18ac0b18aa0b18a90b18a80b18a10b18a00b169f0b189e0b179c0b169b0e94950b0e920b0d910b0c81149f5b0b1451149e35111707,
  0xb16c10b18c00b18bf0b16be0b18bd0b18bc136bb60b18b30b18b10b18b00b18af0b18ae0b19ad0b18ac0b18aa0b18a90b18a80b18a10b18a00b169f0b189e0b179c0b169b0e99950b0e920b0d910b0c81149f5b0b1451149e35111707,
  0xc17c10c19c00c19bf0c17be0c19bd0c19bc146db60c19b30c19b10c19b00c19af0c19ae0c1aad0c19ac0c19aa0c19a90c19a80c19a10c19a00c179f0c199e0c189c0c179b103f950bf7920b84910ba68115135b0c1551157235131f07,
  0xb16c10b18c00b18bf0b16be0b18bd0b18bc147bb60b18b30b18b10b18b00b18af0b18ae0b19ad0b18ac0b18aa0b18a90b18a80b18a10b18a00b169f0b189e0b179c0b169b0b2a950b0e920c73910b0c8115a15b0b1451149e35134d07,
  0xb16c10b18c00b18bf0b16be0b18bd0b18bc147bb60b18b30b18b10b18b00b18af0b18ae0b19ad0b18ac0b18aa0b18a90b18a80b18a10b18a00b169f0b189e0b179c0b169b0e0e950b0e920c73910b0c8115a15b0b1451149e35134d07,
  0xc17c10c19c00c19bf0c17be0c19bd0c19bc146db60c19b30c19b10c19b00c19af0c19ae0c1aad0c19ac0c19aa0c19a90c19a80c19a10c19a00c179f0c199e0c189c0c179b1046950bf7920b84910ba68115135b0c1551157235131f07,
  0xb16c10b18c00b18bf0b16be0b18bd0b18bc147bb60b18b30b18b10b18b00b18af0b18ae0b19ad0b18ac0b18aa0b18a90b18a80b18a10b18a00b169f0b189e0b179c0b169b0b32950b0e920c73910b0c8115a15b0b1451149e35134d07,
  0xb16c10b18c00b18bf0b16be0b18bd0b18bc147bb60b18b30b18b10b18b00b18af0b18ae0b19ad0b18ac0b18aa0b18a90b18a80b18a10b18a00b169f0b189e0b179c0b169b0e0f950b0e920c73910b0c8115a15b0b1451149e35134d07,
  0xb16c10b18c00b18bf0b16be0b18bd0b18bc147bb60b18b30b18b10b18b00b18af0b18ae0b19ad0b18ac0b18aa0b18a90b18a80b18a10b18a00b169f0b189e0b179c0b169b0e11950b0e920c73910b0c8115a15b0b1451149e35134d07,
  0xb16c10b18c00b18bf0b16be0b18bd0b18bc147bb60b18b30b18b10b18b00b18af0b18ae0b19ad0b18ac0b18aa0b18a90b18a80b18a10b18a00b169f0b189e0b179c0b169b0e12950b0e920c73910b0c8115a15b0b1451149e35134d07,
  0xb16c10b18c00b18bf0b16be0b18bd0b18bc147bb60b18b30b18b10b18b00b18af0b18ae0b19ad0b18ac0b18aa0b18a90b18a80b18a10b18a00b169f0b189e0b179c0b169b0b36950b0e920c73910b0c8115a15b0b1451149e35134d07,
  0xb16c10b18c00b18bf0b16be0b18bd0b18bc147bb60b18b30b18b10b18b00b18af0b18ae0b19ad0b18ac0b18aa0b18a90b18a80b18a10b18a00b169f0b189e0b179c0b169b0b37950b0e920c73910b0c8115a15b0b1451149e35134d07,
  0xb16c10b18c00b18bf0b16be0b18bd0b18bc136bb60b18b30b18b10b18b00b18af0b18ae0b19ad0b18ac0b18aa0b18a90b18a80b18a10b18a00b169f0b189e0b179c0b169b10ca950b0e920b0d910b0c81149f5b0b1451149e35111707,
  0xc17c10c19c00c19bf0c17be0c19bd0c19bc146db60c19b30c19b10c19b00c19af0c19ae0c1aad0c19ac0c19aa0c19a90c19a80c19a10c19a00c179f0c199e0c189c0c179b104c950bf7920b84910ba68115135b0c1551157235131f07,
  0xb16c10b18c00b18bf0b16be0b18bd0b18bc147bb60b18b30b18b10b18b00b18af0b18ae0b19ad0b18ac0b18aa0b18a90b18a80b18a10b18a00b169f0b189e0b179c0b169b0b38950b0e920c73910b0c8115a15b0b1451149e35134d07,
  0xb16c10b18c00b18bf0b16be0b18bd0b18bc147bb60b18b30b18b10b18b00b18af0b18ae0b19ad0b18ac0b18aa0b18a90b18a80b18a10b18a00b169f0b189e0b179c0b169b0e13950b0e920c73910b0c8115a15b0b1451149e35134d07,
  0xb16c10b18c00b18bf0b16be0b18bd0b18bc136bb60b18b30b18b10b18b00b18af0b18ae0b19ad0b18ac0b18aa0b18a90b18a80b18a10b18a00b169f0b189e0b179c0b169b10d2950b0e920b0d910b0c81149f5b0b1451149e35111707,
  0xb16c10b18c00b18bf0b16be0b18bd0b18bc136bb60b18b30b18b10b18b00b18af0b18ae0b19ad0b18ac0b18aa0b18a90b18a80b18a10b18a00b169f0b189e0b179c0b169b10da950b0e920b0d910b0c81149f5b0b1451149e35111707,
  0xb16c10b18c00b18bf0b16be0b18bd0b18bc136bb60b18b30b18b10b18b00b18af0b18ae0b19ad0b18ac0b18aa0b18a90b18a80b18a10b18a00b169f0b189e0b179c0b169b10e2950b0e920b0d910b0c81149f5b0b1451149e35111707,
  0xb16c10b18c00b18bf0b16be0b18bd0b18bc147bb60b18b30b18b10b18b00b18af0b18ae0b19ad0b18ac0b18aa0b18a90b18a80b18a10b18a00b169f0b189e0b179c0b169b0b1c950b0e920c73910b0c8115a15b0b1451149e35134d07,
  0xb16c10b18c00b18bf0b16be0b18bd0b18bc147bb60b18b30b18b10b18b00b18af0b18ae0b19ad0b18ac0b18aa0b18a90b18a80b18a10b18a00b169f0b189e0b179c0b169b0e17950b0e920c73910b0c8115a15b0b1451149e35134d07,
  0xb16c10b18c00b18bf0b16be0b18bd0b18bc136bb60b18b30b18b10b18b00b18af0b18ae0b19ad0b18ac0b18aa0b18a90b18a80b18a10b18a00b169f0b189e0b209c0b169b1355950b0e920b0d910b0c81149f5b0b1451149e35111707,
  0xb16c10b18c00b18bf0b16be0b18bd0b18bc136bb60b18b30b18b10b18b00b18af0b18ae0b19ad0b18ac0b18aa0b18a90b18a80b18a10b18a00b169f0b189e0b219c0b169b1355950b0e920b0d910b0c81149f5b0b1451149e35111707,
  0xb16c10b18c00b18bf0b16be0b18bd0b18bc136bb60b18b30b18b10b18b00b18af0b18ae0b19ad0b18ac0b18aa0b18a90b18a80b18a10b18a00b169f0b189e0b179c0b169b10f0950b0e920b0d910b0c81149f5b0b1451149e35111707,
  0xb16c10b18c00b18bf0b16be0b18bd0b18bc147bb60b18b30b18b10b18b00b18af0b18ae0b19ad0b18ac0b18aa0b18a90b18a80b18a10b18a00b169f0b189e0b179c0b169b10fa950b0e920c73910b0c8115a15b0b1451149e35134d07,
  0xb16c10b18c00b18bf0b16be0b18bd0b18bc136bb60b18b30b18b10b18b00b18af0b18ae0b19ad0b18ac0b18aa0b18a90b18a80b18a10b18a00b169f0b189e0b179c0b169b10fb950b0e920b0d910b0c81149f5b0b1451149e35111707,
  0xb16c10b18c00b18bf0b16be0b18bd0b18bc147bb60b18b30b18b10b18b00b18af0b18ae0b19ad0b18ac0b18aa0b18a90b18a80b18a10b18a00b169f0b189e0b179c0b169b10fc950b0e920c73910b0c8115a15b0b1451149e35134d07,
  0xb16c10b18c00b18bf0b16be0b18bd0b18bc147bb60b18b30b18b10b18b00b18af0b18ae0b19ad0b18ac0b18aa0b18a90b18a80b18a10b18a00b169f0b189e0b179c0b169b10fd950b0e920c73910b0c8115a15b0b1451149e35134d07,
  0xb16c10b18c00b18bf0b16be0b18bd0b18bc147bb60b18b30b18b10b18b00b18af0b18ae0b19ad0b18ac0b18aa0b18a90b18a80b18a10b18a00b169f0b189e0b179c0b169b10fe950b0e920c73910b0c8115a15b0b1451149e35134d07,
  0xb16c10b18c00b18bf0b16be0b18bd0b18bc147bb60b18b30b18b10b18b00b18af0b18ae0b19ad0b18ac0b18aa0b18a90b18a80b18a10b18a00b169f0b189e0b179c0b169b1101950b0e920c73910b0c8115a15b0b1451149e35134d07,
  0xb16c10b18c00b18bf0b16be0b18bd0b18bc147bb60b18b30b18b10b18b00b18af0b18ae0b19ad0b18ac0b18aa0b18a90b18a80b18a10b18a00b169f0b189e0b179c0b169b1102950b0e920c73910b0c8115a15b0b1451149e35134d07,
  0x110cc912fcc81092c30e2fbb0e2fba143fb60e2fb50e2fb40a8e890a77880e2f6f0b95630b956211096112fb6012fb5f11095e0c685b0510570b955112fb4b14ab4a0ec43e14ab3411093214ab300e2f01,
  0x110cc912fcc81092c30e8bbb0e8bba143fb60e8bb50e8bb40a8e890a77880e8b6f0b95630b956211096112fb6012fb5f11095e0c685b0510570b955112fb4b14ab4a0ec43e14ab3411093214ab300e8b01,
  0x110cc9110bc81092c30e2fbb0e2fba143fb60e2fb50e2fb40a8e890a77880e2f6f0b95630b9562110961110a60110a5f11095e0c685b0510570b9551110a4b14ab4a0ec43e14ab3411093214ab300e2f01,
  0x1121c91120c800d37f00c65100c535, 0x1121c91120c80d394a0d39340d3930108013,
  0x1121c91120c8032d7f031e51030135, 0x1121c91306c800d37f00c65100c535,
  0x1121c91306c80d394a0d39340d3930108013, 0x1121c91306c8032d7f031e51030135, 0x68b7f06005105ff35,
  0x1092c30e3ebb0e3eba143fb60e3eb50e3eb40a8e890a77880e3e6f0b95630b956213746113756013755f13745e0c685b0510570b955113754b14ab4a0ec43e14ab3413743214ab300e3e01,
  0x1092c30e8cbb0e8cba143fb60e8cb50e8cb40a8e890a77880e8c6f0b95630b956213746113756013755f13745e0c685b0510570b955113754b14ab4a0ec43e14ab3413743214ab300e8c01,
  0xd37f00c65100c535, 0xd394a0d39340d3930108013, 0x32d7f031e51030135, 0x6a67f05f65105f535,
  0xc854a0c85340c8530108013, 0xc2ab20ba956, 0xd394a0d39340d393010be13, 0xfec7f0de6510d1b35,
  0xb23b20afb56, 0x138db204f456, 0xb1fb213b290]

/-- The rows of successors 768 to 831. -/
def gotos12 : Array Nat := #[
  0xc22b2, 0xb1fb2, 0x4d5c3051057, 0x115f4a115f34115f30,
  0x1092c30e2fbb0e2fba143fb60e2fb50e2fb40a88890a74880e2f6f0b90630b90620c685b0510570b90510ec43e0e2f01,
  0x1092c30e78bb0e78ba143fb60e78b50e78b40a88890a74880e786f0b90630b90620c685b0510570b90510ec43e0e7801,
  0x1092c30e8bbb0e8bba143fb60e8bb50e8bb40a88890a74880e8b6f0b90630b90620c685b0510570b90510ec43e0e8b01,
  0x1092c30e90bb0e90ba143fb60e90b50e90b40a88890a74880e906f0b90630b90620c685b0510570b90510ec43e0e9001,
  0x1092c30e95bb0e95ba143fb60e95b50e95b40a88890a74880e956f0b90630b90620c685b0510570b90510ec43e0e9501,
  0x1092c30e9abb0e9aba143fb60e9ab50e9ab40a88890a74880e9a6f0b90630b90620c685b0510570b90510ec43e0e9a01,
  0x1092c30ef4bb0ef4ba143fb60ef4b50ef4b40a88890a74880ef46f0b90630b90620c685b0510570b90510ec43e0ef401,
  0x1092c30e3ebb0e3eba143fb60e3eb50e3eb40a88890a74880e3e6f0b90630b90620c685b0510570b90510ec43e0e3e01,
  0x1092c30e7bbb0e7bba143fb60e7bb50e7bb40a88890a74880e7b6f0b90630b90620c685b0510570b90510ec43e0e7b01,
  0x1092c30e8cbb0e8cba143fb60e8cb50e8cb40a88890a74880e8c6f0b90630b90620c685b0510570b90510ec43e0e8c01,
  0x1092c30e91bb0e91ba143fb60e91b50e91b40a88890a74880e916f0b90630b90620c685b0510570b90510ec43e0e9101,
  0x1092c30e96bb0e96ba143fb60e96b50e96b40a88890a74880e966f0b90630b90620c685b0510570b90510ec43e0e9601,
  0x1092c30e9bbb0e9bba143fb60e9bb50e9bb40a88890a74880e9b6f0b90630b90620c685b0510570b90510ec43e0e9b01,
  0x5bed008fdc31136bb0a87890a488811367010906f11366c0b67630b67620a175f05be5c0a98570b6751,
  0x5bfd008fdc31136bb0a87890a488811367010906f11366c0b67630b67620a175f05bf5c0a98570b6751,
  0x1121c91306c81070c30fe8870fe8840fe8820fe8800fea7e0fe87d0fe87c0fe87b0fe8710510570fe83c0fe83a0fe8370fe8120fe8110fe90610bc03146302,
  0x1121c91120c81070c30fe8870fe8840fe8820fe8800fea7e0fe87d0fe87c0fe87b0fe8710510570fe83c0fe83a0fe8370fe8120fe8110fe90610bc03146302,
  0x5c3d008fdc31136bb0a87890a488811367010906f11366c0b67630b67620a175f05c35c0a98570b6751,
  0x5c6d008fdc31136bb0a87890a488811367010906f11366c0b67630b67620a175f05c65c0a98570b6751,
  0x5c9d008fdc31136bb0a87890a488811367010906f11366c0b67630b67620a175f05c95c0a98570b6751,
  0x5ccd008fdc31136bb0a87890a488811367010906f11366c0b67630b67620a175f05cc5c0a98570b6751,
  0x110cc9110bc80a84890a71880d37630d3762110961110a60110a5f11095e0d3751110a4b14ab4a14ab3411093214ab30,
  0x5f0b2065e56065552130540,
  0x110cc912fcc80a84890a71880d37630d376211096112fb6012fb5f11095e0d375112fb4b14ab4a14ab3411093214ab30,
  0x1070c30fe8870fe8840fe8820fe8800fea7e0fe87d0fe87c0fe87b0fe8710510570fe83c0fe83a0fe8370fe8120fe8110fe90610bc03146302,
  0x61db2061c56, 0x61fb2061e56, 0x621b2062056, 0x613b2,
  0xa84890a71880d37630d376213746113756013755f13745e0d375113754b14ab4a14ab3413743214ab30,
  0x65552130540, 0x619b2, 0x61a56, 0x65552, 0x66156, 0x67156, 0x6a714, 0x68c14,
  0x73bb2081d56080a52111b40, 0x1121c91306c80a94890b99630b99620b9951,
  0x1121c91120c80a94890b99630b99620b9951, 0xa8a890b6b630b6b620b6b510a3c14,
  0xaa5890a55880c88630c88620c8851, 0xab2890a5a880c8b630c8b620c8b51,
  0x1121c91306c80e7a630e7a620e7a51, 0x1121c91306c80b99630b99620b9951, 0x794b2079356, 0x796b2079556,
  0x798b2079756, 0x1121c91120c80e7a630e7a620e7a51, 0x1121c91120c80b99630b99620b9951, 0x774b2,
  0x5efb2065356130540, 0x80a52111b40, 0x735b2080856111b40, 0x12f3cc05efb214b290065356130540,
  0xaac890c8a630c8a620c8a51, 0xac3890c98630c98620c9851, 0xa94890b99630b99620b9951, 0x77ab2]

/-- The rows of successors 832 to 895. -/
def gotos13 : Array Nat := #[
  0x77b56, 0x12f3cc05efb2150190065356130540, 0x12f3cc05efb2151690065356130540,
  0x12f3cc05efb2153190065356130540, 0x1085cc0735b2080856111b40, 0x80a52,
  0x12fdc914b06314b06212fa6112fa5e14b05114ab4a14ab3412fa3214ab30, 0x82656, 0xb6b630b6b620b6b51,
  0x84256, 0xa8d890b94630b94620b9451, 0xa8f890b70630b70620b7051, 0xb70630b70620b7051,
  0xa91890b72630b72620b7251, 0xb73630b73620b7351, 0xa93890b98630b98620b9851,
  0xa95890b79630b79620b7951, 0xb7a630b7a620b7a51, 0xe7a630e7a620e7a51, 0xb99630b99620b9951,
  0xa96890b9f630b9f620b9f51, 0x110cc914b06314b06211096111095e14b05114ab4a14ab3411093214ab30,
  0x1132ca05efb2065356130540, 0x14b06314b06213746113745e14b05114ab4a14ab3413743214ab30,
  0xeaacc05efb2065356130540, 0xe3b630e3b620e3b51, 0x9a3b2065356130540, 0xe3d630e3d620e3d51,
  0xb94630b94620b9451, 0x1158ca05efb2065356130540,
  0x131dc80a84890a71880d4f630d4f62131c60131c5f0d4f51131c4b, 0xe47630e47620e4751,
  0xe9f630e9f620e9f51, 0xe4b630e4b620e4b51, 0xb98630b98620b9851, 0x12f3cc05efb2065356130540,
  0xe50630e50620e5051, 0xb76630b76620b7651, 0xb77630b77620b7751, 0xb7c630b7c620b7c51,
  0xe52630e52620e5251, 0xb9e630b9e620b9e51, 0xb9f630b9f620b9f51, 0xe57630e57620e5751,
  0xb7d630b7d620b7d51, 0xb7e630b7e620b7e51, 0xb7f630b7f620b7f51, 0xb81630b81620b8151,
  0xe59630e59620e5951, 0xba0630ba0620ba051, 0xba1630ba1620ba151, 0xe5d630e5d620e5d51,
  0xb82630b82620b8251, 0xe5e630e5e620e5e51, 0xba2630ba2620ba251, 0xea4630ea4620ea451,
  0xea6630ea6620ea651, 0xea7630ea7620ea751, 0xea8630ea8620ea851, 0x130bca05efb2065356130540,
  0x1319ca05efb2065356130540, 0x132dca05efb2065356130540, 0x1335ca05efb2065356130540,
  0x1341ca05efb2065356130540]

/-- The rows of successors 896 to 959. -/
def gotos14 : Array Nat := #[
  0x1345ca05efb2065356130540, 0x1348ca05efb2065356130540, 0xe7f630e7f620e7f51, 0xe85630e85620e8551,
  0xe86630e86620e8651, 0xe87630e87620e8751, 0xa86890e29630e29620e2951,
  0xa84890a71880d4f630d4f6213756013755f0d4f5113754b,
  0xa65c30a8c890a4d880b6d630b6d620a195f0a98570b6d51, 0xc8a630c8a620c8a51, 0xe48630e48620e4851,
  0x1320c80a86890e29630e29620e2951, 0xc8f630c8f620c8f51, 0xe51630e51620e5151, 0xe29630e29620e2951,
  0x1320c80e29630e29620e2951, 0xab8890c8f630c8f620c8f51, 0xabb890c91630c91620c9151,
  0xc92630c92620c9251, 0xac7890ca0630ca0620ca051, 0xca1630ca1620ca151, 0xac9890ca7630ca7620ca751,
  0xca8630ca8620ca851, 0xa44b2080856111b40, 0xc97630c97620c9751, 0xc9b630c9b620c9b51,
  0xc9c630c9c620c9c51, 0xc9f630c9f620c9f51, 0xca5630ca5620ca551, 0xcac630cac620cac51,
  0xcad630cad620cad51, 0xcae630cae620cae51, 0xcaf630caf620caf51, 0xcb2630cb2620cb251,
  0xcb3630cb3620cb351, 0xcb4630cb4620cb451, 0xcb7630cb7620cb751, 0xcb8630cb8620cb851,
  0xcb9630cb9620cb951, 0xcba630cba620cba51, 0x1411b20a9a56, 0xa89890e34630e34620e3451, 0x1320c8,
  0xe34630e34620e3451, 0xa8a890b6b630b6b620b6b51, 0xe44630e44620e4451, 0xa92890b74630b74620b7451,
  0xe4d630e4d620e4d51, 0xe54630e54620e5451, 0xabf890c95630c95620c9551, 0xe58630e58620e5851,
  0xe5a630e5a620e5a51, 0xe61630e61620e6151, 0xe62630e62620e6251, 0xa65c30a9857,
  0xe89630e89620e8951, 0xea9630ea9620ea951,
  0xeb1c303248703248403248203248003267e03247d03247c03247b03247105105703243c03243a032437032412032411034206,
  0xa8b890b6c630b6c620b6c51, 0x1157860ee1630ee1620ee151, 0xa90890b71630b71620b7151,
  0x13e98610b46310b46210b451, 0x131886104363104362104351,
  0x1070c30fe8870fe8840fe8820fe8800fea7e0fe87d0fe87c0fe87b0fe8710510570fe83c0fe83a0fe8370fe8120fe8110ffa06]

/-- The rows of successors 960 to 1023. -/
def gotos15 : Array Nat := #[
  0xb75630b75620b7551, 0xb78630b78620b7851, 0xb7b630b7b620b7b51, 0xb80630b80620b8051,
  0xc88630c88620c8851, 0xc8c630c8c620c8c51, 0xc8d630c8d620c8d51, 0xc90630c90620c9051,
  0xc93630c93620c9351, 0xc94630c94620c9451, 0xc96630c96620c9651, 0xc99630c99620c9951,
  0xc9a630c9a620c9a51, 0xc9d630c9d620c9d51, 0xc9e630c9e620c9e51, 0xca2630ca2620ca251,
  0xca3630ca3620ca351, 0xca4630ca4620ca451, 0xca6630ca6620ca651, 0xca9630ca9620ca951,
  0xcaa630caa620caa51, 0xcab630cab620cab51, 0xcb0630cb0620cb051, 0xcb1630cb1620cb151,
  0xcb5630cb5620cb551, 0xcb6630cb6620cb651, 0x14e1ab, 0xb24b20afc56, 0xb25b20afd56,
  0x107e7713626d107d51148f0c148f0b136109, 0xc2bb20baa56, 0xc2cb20bab56, 0xb22b2, 0xb1156,
  0x14e2b114e251, 0x14e5b114e451, 0x14e8b114e751, 0x14ebb114ea51, 0xcdbb20c4a56, 0xcdcb20c4b56,
  0xcddb20c4c56, 0x151fb1151f51, 0x1522b1152151, 0x1525b1152451, 0x1528b1152751, 0x1549b1154951,
  0x154cb1154b51, 0x154fb1154e51, 0x1552b1155151, 0x108a7713626d108951148f0c148f0b137709,
  0x13ffb60ed4900cbb5b114e490e3c3e, 0x14d1b10b2ca2, 0x13ffb60eed900cbb5b1162490e463e,
  0x143fb60eed900c685b11624911633e, 0x135eb60eef900e1e5b11664914083e, 0x1121c91306c813a9b60d545b,
  0x13ffb60efe900cbb5b116e490e4f3e, 0x143fb60efe900c685b116e4911713e,
  0x135eb60f01900e1e5b11744914173e, 0x135eb60f02900e1e5b11754914173e,
  0x135eb60f08900e1e5b117c4914173e, 0x135eb60f09900e1e5b117d4914173e,
  0x13ffb60f16900cbb5b1184490e563e, 0x135eb60f19900e1e5b11874914293e]

/-- The rows of successors 1024 to 1087. -/
def gotos16 : Array Nat := #[
  0x135eb60f1c900e1e5b118b4914293e, 0x135eb60f2d900e1e5b11a24914293e,
  0x135eb60f2e900e1e5b11a34914293e, 0x135eb60f34900e1e5b11aa4914293e,
  0x135eb60f35900e1e5b11ab4914293e, 0x13ffb60f44900cbb5b11b2490e5c3e,
  0x135eb60f48900e1e5b11ba4914343e, 0x135eb60f65900e1e5b11e84914343e,
  0x135eb60f68900e1e5b11ec4914343e, 0x135eb60f78900e1e5b12024914343e,
  0x135eb60fa6900e1e5b12504914393e, 0x1121c91120c813a9b60d545b, 0xbfa56, 0x150cb10cbea2,
  0x151db10c35a2, 0x1538b107cfa2, 0x1547b10648a2, 0x1564b10b2ca2, 0x15acb10b2ca2,
  0x1095b91389b80b1fb2, 0x143fb60ed8900c685b0ed73e, 0x143fb60ef3900c685b0ef13e,
  0x143fb60ed8900c685b0dd43e, 0x143fb60f0e900c685b0f0c3e, 0x143fb60ef3900c685b0dd53e,
  0x143fb60f3c900c685b0f3a3e, 0x143fb60f0e900c685b0dd83e, 0x143fb60f81900c685b0f7f3e,
  0x143fb60f3c900c685b0dda3e, 0x143fb60f81900c685b0ddc3e, 0xcd3b2, 0xc27b2,
  0x13786d14af5111290d14af05, 0x13ffb60eee900cbb5b1164490e493e, 0x143fb60ef6900c685b0ef53e,
  0x13ffb60eff900cbb5b116f490e4e3e, 0x143fb60eff900c685b116f4911723e,
  0x135eb60f07900e1e5b117a4914183e, 0x143fb60f0f900c685b0f0a3e, 0x13a9b60d545b,
  0x143fb60ef6900c685b0dd63e, 0x13ffb60f15900cbb5b1181490e553e, 0x143fb60f15900c685b11814911853e,
  0x135eb60f1b900e1e5b11894914283e, 0x135eb60f1f900e1e5b118e4914283e,
  0x135eb60f33900e1e5b11a84914283e, 0x135eb60f37900e1e5b11ad4914283e, 0x143fb60f3b900c685b0f383e,
  0x143fb60f0f900c685b0dd73e, 0x13ffb60f43900cbb5b11b0490e5b3e, 0x135eb60f47900e1e5b11b64914333e,
  0x135eb60f4a900e1e5b11bc4914333e, 0x135eb60f67900e1e5b11ea4914333e,
  0x135eb60f6b900e1e5b11ef4914333e, 0x135eb60f7a900e1e5b12044914333e,
  0x135eb60f7c900e1e5b12074914333e, 0x143fb60f80900c685b0f7d3e, 0x143fb60f3b900c685b0dd93e,
  0x13ffb60f86900cbb5b120c490e5f3e, 0x135eb60f89900e1e5b12134914383e,
  0x135eb60fa5900e1e5b124c4914383e, 0x135eb60fa8900e1e5b12524914383e,
  0x135eb60fbd900e1e5b12774914383e, 0x143fb60fc1900c685b0fbe3e]

/-- The rows of successors 1088 to 1151. -/
def gotos17 : Array Nat := #[
  0x143fb60f80900c685b0ddb3e, 0x135eb60fd4900e1e5b12ac49143a3e, 0x143fb60fc1900c685b0ddd3e,
  0xc6e56, 0x111f51111f05111e04, 0x139f6d14c55114c505, 0x13786d14af5113ca0d14af05, 0xcd8b2,
  0xd3cb614937a11157808065a136938, 0xd4db614937a111578082b5a139238,
  0xd52b614937a11157809a05a13a538, 0x111f51111f0513ba04, 0xebe900ee749, 0xebe90112b49,
  0xe6aa30e6a940e6a90, 0xe6da30e6d940e6d90, 0xdeab614937a11157806515a140038,
  0xdf0b614937a11157806655a141338, 0xd4ab614937a11157800d65a138238,
  0xd4eb614937a111578030e5a139638, 0xd50b614937a111578082f5a139b38,
  0xd56b614937a11157803595a13b738, 0xd58b614937a11157800dc5a13b838,
  0xd59b614937a11157803145a13be38, 0xd5bb614937a11157808515a13c638,
  0xd5db614937a11157809a65a13ce38, 0xeed90116249, 0xd62b614937a111578037b5a13d838, 0xefe90116e49,
  0xf0390117649, 0xf0490117749, 0xf0590117849, 0xf1690118449, 0xf1d90118c49, 0xf2090119049,
  0xf2190119149, 0xf2290119249, 0xf2390119349, 0xf2690119749, 0xf2790119849, 0xf2890119949,
  0xf2f9011a449, 0xf309011a549, 0xf319011a649, 0xf449011b249, 0xf4d9011c349, 0xf509011c749,
  0xf519011c849, 0xf549011cc49, 0xf599011d549, 0xf5a9011d649, 0xf5b9011d749, 0xf5c9011d849,
  0xf5f9011dc49, 0xf609011dd49, 0xf699011ed49, 0xf6c9011f149, 0xf6d9011f249, 0xf6e9011f349,
  0xf6f9011f449, 0xf729011f849, 0xf739011f949, 0xf8790120e49, 0xf8c90121e49]

/-- The rows of successors 1152 to 1215. -/
def gotos18 : Array Nat := #[
  0xf9390122e49, 0xf9690123249, 0xf9790123349, 0xf9a90123749, 0xf9f90124049, 0xfab90125949,
  0xfae90125d49, 0xfaf90125e49, 0xfb290126249, 0xfb790126b49, 0xfca90129249, 0xfd79012b749,
  0xfeda30fed940fed90, 0xff9a30ff9940ff990, 0xdeeb614937a11157808845a140a38,
  0xdf1b614937a1115780fff5a141638, 0xdf2b614937a11157806685a141938,
  0xdf4b614937a11157810075a142338, 0xdf6b614937a111578088b5a142438,
  0xdf7b614937a11157810115a142738, 0xdf8b614937a111578067a5a142d38,
  0xdf9b614937a111578101f5a143138, 0xdfab614937a11157808975a144038,
  0xdfdb614937a111578089d5a144b38, 0xb1aa70af9a60adda50adca4109307, 0xec6da0e77cf0ec69d0e7753,
  0xefc900efc8f0efc8e0efc8d, 0xf17900f178f0f178e0f178d, 0xf3f900f3f8f0f3f8e0f3f8d,
  0xf40900f408f0f408e0f408d, 0xf41900f418f0f418e0f418d, 0xf84900f848f0f848e0f848d,
  0xf85900f858f0f858e0f858d, 0xfc2900fc28f0fc28e0fc28d, 0xfc3900fc38f0fc38e0fc38d, 0x103414,
  0x76ba7076aa606a2a506a1a410c507, 0xec6da0e24cf0ec69d0e2453, 0xc1ca70ba8a60b09a50b08a410cf07,
  0x60da7060ca605daa505d9a410d707, 0xccda70c48a60b54a50b53a410df07, 0x1054da0e77cf10549d0e7753,
  0xb1aa70af9a60c0aa50c09a410e707, 0xd394a0d39340d3930107f13, 0x135eb60e1e5b136a3e,
  0x1370b2080856136f40, 0x135eb60e1e5b13763e, 0x108f90137e49, 0x14937a111578081b5a138338,
  0x135eb60e1e5b13843e, 0xec8b60340b3113b83, 0x138eb2082956, 0xd394a0d39340d3930114b13,
  0xc844a0c84340c8430107f13, 0x1095b91389b8, 0x14937a11157800da5a13a638, 0x10a2b913aeb8,
  0x1406b205ec56140540, 0x14937a111578084d5a13b938, 0x14937a11157803125a13bc38,
  0x14937a111578084f5a13c338, 0x14937a11157809a85a13cf38, 0xeee90116449, 0xef290]

/-- The rows of successors 1216 to 1279. -/
def gotos19 : Array Nat := #[
  0xbdbb205ed56140540, 0x14937a11157803745a13d538, 0x10aed812f8b2, 0x14937a11157800e25a13d738,
  0x14937a11157803195a13db38, 0x14937a11157808695a13e138, 0x14937a11157809ae5a13e638,
  0xeff90116f49, 0xf0690117949, 0xf0d90, 0xf1090, 0x14937a111578038b5a13ea38, 0xf1590118149,
  0xf1a90118849, 0xf1e90118d49, 0xf2490119449, 0xf2590119549, 0xf2990119a49, 0xf2a90119b49,
  0xf2b90119d49, 0xf2c90119e49, 0xf329011a749, 0xf369011ac49, 0xf3d90, 0xf439011b049,
  0xf469011b549, 0xf499011bb49, 0xf4b9011be49, 0xf4c9011bf49, 0xf4e9011c449, 0xf4f9011c549,
  0xf529011c949, 0xf539011ca49, 0xf559011cd49, 0xf569011ce49, 0xf579011d049, 0xf589011d149,
  0xf5d9011d949, 0xf5e9011da49, 0xf619011de49, 0xf629011df49, 0xf639011e149, 0xf649011e249,
  0xf669011e949, 0xf6a9011ee49, 0xf709011f549, 0xf719011f649, 0xf749011fa49, 0xf759011fb49,
  0xf769011fd49, 0xf779011fe49, 0xf7990120349, 0xf7b90120649, 0xf8690120c49, 0xf8890121249,
  0xf8a90121949, 0xf8b90121a49, 0xf8d90121f49, 0xf8e90122049, 0xf8f90122249, 0xf9090122349,
  0xf9190122749, 0xf9290122849, 0xf9490122f49]

/-- The rows of successors 1280 to 1343. -/
def gotos20 : Array Nat := #[
  0xf9590123049, 0xf9890123449, 0xf9990123549, 0xf9b90123849, 0xf9c90123949, 0xf9d90123b49,
  0xf9e90123c49, 0xfa090124149, 0xfa190124249, 0xfa290124449, 0xfa390124549, 0xfa490124b49,
  0xfa790125149, 0xfa990125449, 0xfaa90125549, 0xfac90125a49, 0xfad90125b49, 0xfb090125f49,
  0xfb190126049, 0xfb390126349, 0xfb490126449, 0xfb590126649, 0xfb690126749, 0xfb890126c49,
  0xfb990126d49, 0xfba90126f49, 0xfbb90127049, 0xfbc90127649, 0xfc490127e49, 0xfc690128449,
  0xfc790128549, 0xfc890128d49, 0xfc990128e49, 0xfcb90129349, 0xfcc90129449, 0xfcd90129649,
  0xfce90129749, 0xfcf90129b49, 0xfd090129c49, 0xfd19012a249, 0xfd29012a349, 0xfd39012ab49,
  0xfd59012b249, 0xfd69012b349, 0xfd89012b849, 0xfd99012b949, 0xfda9012bb49, 0xfdb9012bc49,
  0xfdc9012c049, 0xfdd9012c149, 0xfde9012c749, 0xfdf9012c849, 0xfe39012d549, 0xfe49012d649,
  0xfe59012e449, 0xfe69012e549, 0x139a14, 0x13c014, 0x13c214, 0x13dc14, 0x13de14, 0x13eb14,
  0x13ed14, 0x13f014]

/-- The rows of successors 1344 to 1407. -/
def gotos21 : Array Nat := #[
  0x13f214, 0x13f414, 0x13f614, 0x13f814, 0x13fa14, 0x13fb14, 0x1406b2065356140540,
  0x14937a111578065c5a140b38, 0x103db60ff5b3131183, 0x1412b2066356, 0x14937a11157808885a141b38,
  0x1370b2079c56136f40, 0x14937a11157806765a142538, 0x14937a11157810105a142638,
  0x14937a11157806785a142a38, 0xd23b207b756136f40, 0x14937a11157810195a142f38,
  0x14937a11157808915a143038, 0x14937a11157810225a143238, 0x14937a11157806815a143638,
  0x14937a111578102c5a143738, 0x14937a111578089b5a144438, 0x1406b2091f56140540,
  0xbdbb2092056140540, 0x14937a11157808a25a144d38, 0x1406b208b356140540, 0xbdbb208b456140540,
  0x1370b2092356136f40, 0xd23b2092456136f40, 0x1406b209c256140540, 0xbdbb209c356140540,
  0x1406b207d556140540, 0xc13b207d656140540, 0xd394a0d39340d393010bd13, 0x135eb60e1e5b14013e,
  0x135eb60e1e5b140c3e, 0xe24cf0e2453, 0x1371a3137194137190, 0x3997f031e51030135,
  0x135eb60e1e5b13853e, 0x1139d7, 0xe31cf0e3153, 0x1391a3139194139190, 0x14c15114c105,
  0x113f51113f05, 0x135eb60e1e5b13973e, 0xe37c70e37280e3727, 0x109f9013a349, 0x114fd7,
  0x135eb60e1e5b13a73e, 0xe3fdb, 0x13bb5113bb05, 0x135eb60e1e5b13c13e, 0xe45c70e45280e4527,
  0x10ab4a10ab3410ab30, 0x11614a116134116130, 0x13ffb60cbb5b0e463e, 0xa1b14, 0x143fb60c685b0ef13e,
  0xe4adb, 0xe4cdb, 0x10afd812f9b2, 0x13d95113d905, 0x135eb60e1e5b13df3e]

/-- The rows of successors 1408 to 1471. -/
def gotos22 : Array Nat := #[
  0xa1c14, 0x13ffb60cbb5b0e4f3e, 0x143fb60c685b11713e, 0xa1d14, 0x143fb60c685b0f0c3e,
  0x135eb60e1e5b13ee3e, 0xa1e14, 0xa1f14, 0x13ffb60cbb5b0e563e, 0x143fb60c685b11863e,
  0x143fb60c685b0f3a3e, 0x12f8b2, 0x135eb60e1e5b13f33e, 0xa2014, 0xa2114, 0x13ffb60cbb5b0e5c3e,
  0x143fb60c685b11b43e, 0x143fb60c685b0f7f3e, 0x135eb60e1e5b13f73e, 0xa2214, 0xa2314,
  0x13ffb60cbb5b0e603e, 0x143fb60c685b0fc03e, 0xa2414, 0xa2514, 0x13ffb60cbb5b0e643e,
  0x143fb60c685b0fe23e, 0xa2614, 0xa2714, 0xa2814, 0xe77cf0e7753, 0x10337f0de6510d1b35, 0x130fd7,
  0xe7cdb, 0x143fb60c685b0dd53e, 0xe80db, 0x143fb60c685b0dd83e, 0x143fb60c685b0dda3e,
  0x143fb60c685b0ddc3e, 0x143fb60c685b0dde3e, 0x143fb60c685b0de03e, 0x1325d7, 0xe8ddb, 0xe8edb,
  0x1331d7, 0xe92db, 0xe93db, 0x1339d7, 0xe97db, 0xe98db, 0x1342d7, 0xe9cdb, 0xe9ddb,
  0x135eb60e1e5b14173e, 0x135eb60e1e5b140d3e, 0x135eb60e1e5b14293e, 0x135eb60e1e5b141c3e,
  0x135eb60e1e5b14343e, 0x135eb60e1e5b14393e, 0x135eb60e1e5b143b3e, 0x135eb60e1e5b143d3e, 0xeabcc,
  0x5157205155904c658, 0x13ffb60cbb5b0ec33e]

/-- The rows of successors 1472 to 1535. -/
def gotos23 : Array Nat := #[
  0xec6da0ec69d, 0x13ffb60cbb5b0ecb3e, 0x135eb60e1e5b13993e, 0x135eb60e1e5b139c3e, 0x1307c9,
  0x114a49, 0x13ffb60cbb5b0ed63e, 0x135eb60e1e5b13a83e, 0xdb14, 0xededa0ede9d, 0x35bb3115683,
  0x13ffb60cbb5b0ee33e, 0x135eb60e1e5b13bd3e, 0x31314, 0x135eb60e1e5b13bf3e, 0x135eb60e1e5b13c43e,
  0x135eb60e1e5b13c53e, 0x116549, 0x135eb60e1e5b13d03e, 0xdf14, 0x13b290, 0x116bd913d649,
  0x135eb60e1e5b13da3e, 0x31614, 0x135eb60e1e5b13dd3e, 0x135eb60e1e5b13e03e, 0x13ffb60cbb5b0e4e3e,
  0x117049, 0x117349, 0x117b49, 0x143fb60c685b0f0a3e, 0x135eb60e1e5b13ec3e, 0x13ffb60cbb5b0e553e,
  0x118249, 0x118349, 0x143fb60c685b11853e, 0x118a49, 0x118f49, 0x119649, 0x119c49, 0x119f49,
  0x11a049, 0x11a149, 0x11a949, 0x11ae49, 0x143fb60c685b0f383e, 0x12f9b2, 0x135eb60e1e5b13f13e,
  0x13ffb60cbb5b0e5b3e, 0x11af49, 0x11b149, 0x143fb60c685b11b33e, 0x11b749, 0x11b849, 0x11b949,
  0x11bd49, 0x11c049, 0x11c149, 0x11c249, 0x11c649, 0x11cb49, 0x11cf49, 0x11d249, 0x11d349]

/-- The rows of successors 1536 to 1599. -/
def gotos24 : Array Nat := #[
  0x11d449, 0x11db49, 0x11e049, 0x11e349, 0x11e449, 0x11e549, 0x11e649, 0x11e749, 0x11eb49,
  0x11f049, 0x11f749, 0x11fc49, 0x11ff49, 0x120049, 0x120149, 0x120549, 0x120849, 0x120949,
  0x120a49, 0x143fb60c685b0f7d3e, 0x135eb60e1e5b13f53e, 0x13ffb60cbb5b0e5f3e, 0x120b49, 0x120d49,
  0x143fb60c685b120f3e, 0x121049, 0x121149, 0x121449, 0x121549, 0x121649, 0x121749, 0x121849,
  0x121b49, 0x121c49, 0x121d49, 0x122149, 0x122449, 0x122549, 0x122649, 0x122949, 0x122a49,
  0x122b49, 0x122c49, 0x122d49, 0x123149, 0x123649, 0x123a49, 0x123d49, 0x123e49, 0x123f49,
  0x124349, 0x124649, 0x124749, 0x124849, 0x124949, 0x124a49, 0x124d49, 0x124e49, 0x124f49,
  0x125349, 0x125649, 0x125749, 0x125849, 0x125c49]

/-- The rows of successors 1600 to 1663. -/
def gotos25 : Array Nat := #[
  0x126149, 0x126549, 0x126849, 0x126949, 0x126a49, 0x126e49, 0x127149, 0x127249, 0x127349,
  0x127449, 0x127549, 0x127849, 0x127949, 0x127a49, 0x127b49, 0x127c49, 0x143fb60c685b0fbe3e,
  0x135eb60e1e5b13f93e, 0x13ffb60cbb5b0e633e, 0x127d49, 0x127f49, 0x128049, 0x128149, 0x128249,
  0x128349, 0x128649, 0x128749, 0x128849, 0x128949, 0x128a49, 0x128b49, 0x128c49, 0x128f49,
  0x129049, 0x129149, 0x129549, 0x129849, 0x129949, 0x129a49, 0x129d49, 0x129e49, 0x129f49,
  0x12a049, 0x12a149, 0x12a449, 0x12a549, 0x12a649, 0x12a749, 0x12a849, 0x12a949, 0x12aa49,
  0x12ad49, 0x12ae49, 0x12af49, 0x12b049, 0x12b149, 0x12b449, 0x12b549, 0x12b649, 0x12ba49,
  0x12bd49, 0x12be49, 0x12bf49, 0x12c249]

/-- The rows of successors 1664 to 1727. -/
def gotos26 : Array Nat := #[
  0x12c349, 0x12c449, 0x12c549, 0x12c649, 0x12c949, 0x12ca49, 0x12cb49, 0x12cc49, 0x12cd49,
  0x12ce49, 0x12cf49, 0x143fb60c685b0fe03e, 0x12d049, 0x13ffb60cbb5b0e653e, 0x12d149, 0x12d249,
  0x12d349, 0x12d449, 0x12d749, 0x12d849, 0x12d949, 0x12da49, 0x12db49, 0x12dc49, 0x12dd49,
  0x12de49, 0x12df49, 0x12e049, 0x12e149, 0x12e249, 0x12e349, 0x12e649, 0x12e749, 0x12e849,
  0x12e949, 0x12ea49, 0x12eb49, 0x12ec49, 0x12ed49, 0x12ee49, 0x143fb60c685b0fe73e, 0x12ef49,
  0x12f049, 0x12f149, 0x12f249, 0xa99720a99590a1a58, 0x103cda103c9d, 0x1121c9, 0x88914,
  0x1009b3131783, 0x104514, 0x88e14, 0x131ad913d649, 0x104914, 0x143fb60c685b0dd73e,
  0x143fb60c685b0dd93e, 0x143fb60c685b0ddb3e, 0x143fb60c685b0ddd3e, 0x143fb60c685b0ddf3e,
  0x143fb60c685b0de13e, 0x1054da10549d, 0x89c14, 0x89f14, 0x1057da10579d]

/-- The rows of successors 1728 to 1791. -/
def gotos27 : Array Nat := #[
  0x1059da10599d, 0x13ffb60cbb5b103a3e, 0x13ffb60cbb5b103e3e, 0x135eb60e1e5b141a3e,
  0x13ffb60cbb5b10403e, 0x135eb60e1e5b141d3e, 0x13ffb60cbb5b10443e, 0x135eb60e1e5b14283e,
  0x135eb60e1e5b142b3e, 0x135eb60e1e5b142c3e, 0x135eb60e1e5b142e3e, 0x135eb60e1e5b14333e,
  0x135eb60e1e5b14353e, 0x135eb60e1e5b14383e, 0x135eb60e1e5b143a3e, 0x135eb60e1e5b143c3e,
  0x135eb60e1e5b143e3e, 0x13ffb60cbb5b10533e, 0x13ffb60cbb5b10553e, 0x135eb60e1e5b14453e,
  0x135eb60e1e5b144c3e, 0x135eb60e1e5b146b3e, 0x135eb60e1e5b146c3e, 0x1083cd, 0x1084ce, 0x13720a,
  0x137a0e, 0x137b0e, 0x108dc6, 0x108ec6, 0x1133cb, 0x1388b614b75b, 0x1098cd, 0x1099ce, 0x109bcc,
  0x13930a, 0x139d0e, 0x139e0e, 0x13a00e, 0x14c80c14c80b, 0x109ec6, 0x13a449, 0x10a0d6, 0x13b4b8,
  0x13b5b614ce5b, 0x13b6b7, 0x10aaa10e4281158235, 0x13c70e, 0x13cd49, 0x10acd6, 0x13d1b60d615b,
  0x13d2b8, 0x10a6d7, 0x10afd8, 0x13e549, 0x117ea10f1281158235, 0x10b3d8, 0x13d649, 0x10c0cd,
  0x10c1ce, 0x14070a, 0x10c3c6, 0x10c4c6, 0x130ccb]

/-- The rows of successors 1792 to 1855. -/
def gotos28 : Array Nat := #[
  0x14140a, 0x10cdcd, 0x10cece, 0x10d5cd, 0x10d6ce, 0x10ddcd, 0x10dece, 0x10e5cd, 0x10e6ce,
  0x10eacd, 0x10ebce, 0x1467b615025b, 0x146ab6150a5b, 0x146eb615175b, 0x146fb6151c5b,
  0x1471b615325b, 0x1472b615375b, 0x1474b615415b, 0x1475b615465b, 0x1479b6155f5b, 0x147ab615635b,
  0x147db615a65b, 0x147fb615aa5b, 0x231a, 0x108603, 0x14a8b6, 0x1122c9, 0x1123c8, 0x1124c8,
  0x1125c9, 0x112ed1, 0x1132ca, 0x1134ca, 0x1135cb, 0x1118b7, 0x14b57a, 0xb1056, 0x113adc,
  0x14bc590e3258, 0x113e51, 0x1141c4, 0x1146c5, 0x114835, 0x114dd1, 0x31014, 0x1154dd, 0x1155dc,
  0x35ab3, 0x1158ca, 0x1350ca, 0x115ac4, 0x13c86d, 0x13c96d, 0x115dc5, 0x1168dd, 0x375b3, 0x116cd9,
  0x13e26d, 0x13e36d, 0x14db51, 0x14df90, 0x117fd9, 0x12f5cc, 0x1308c9]

/-- The rows of successors 1856 to 1919. -/
def gotos29 : Array Nat := #[
  0x1309c8, 0x130ad1, 0x130bca, 0x77956, 0x1310dc, 0x1316dd, 0x1008b3, 0x1319ca, 0x101ab3,
  0x131bd9, 0x1321c8, 0x1322d1, 0xbf956, 0x132cdd, 0x132dca, 0x61856, 0x1334dd, 0x1335ca, 0xc6d56,
  0x1340dd, 0x1341ca, 0x1345ca, 0x1348ca, 0x331a, 0x10c203, 0x1304b7, 0x1506590e7958, 0x15a5b6,
  0x212b, 0x222b, 0x13632b, 0x242b, 0x2e314, 0xe255b, 0x108b0a, 0x33726, 0x251a, 0x81a5a, 0x81c14,
  0x14ba5b, 0x33f14, 0x34185, 0x109d0a, 0x13a12f, 0x114990, 0x34e85, 0x30f2b, 0x35214, 0xd95a,
  0x83c5a, 0x83e14, 0x84114, 0xedb5b, 0x14cd5b, 0x4f756, 0x84b56, 0x84c5a, 0x3115a, 0x84e5a,
  0x85014, 0x9a75a, 0xde5a, 0x85f14, 0xe014]

/-- The rows of successors 1920 to 1983. -/
def gotos30 : Array Nat := #[
  0xd605b, 0xef75b, 0x13d390, 0x14d95b, 0x3735a, 0xe15a, 0x8645a, 0x3155a, 0x31714, 0x3185a,
  0x8655a, 0x86614, 0x86714, 0x8685a, 0x9ad5a, 0x9af5a, 0xe314, 0xd6e5b, 0x3835a, 0xe45a, 0x38a5a,
  0x31a14, 0x31b5a, 0x87614, 0x8775a, 0x9b45a, 0x31c14, 0x3945a, 0x31d14, 0xcbc5b, 0x65b5a,
  0x65d14, 0xff414, 0xff685, 0x100385, 0x8875a, 0x66b5a, 0x66d14, 0x67014, 0xa9c56, 0x67456,
  0x6755a, 0x100f5a, 0x6775a, 0x67914, 0x88d5a, 0x67b14, 0x88f14, 0x10185a, 0x8905a, 0x67c5a,
  0x10205a, 0x10215a, 0x67d5a, 0x67e14, 0x67f14, 0x6805a, 0x89314, 0x10265a, 0x8945a, 0x102b5a,
  0x102d5a, 0x68214, 0x6835a]

/-- The rows of successors 1984 to 2020. -/
def gotos31 : Array Nat := #[
  0x10325a, 0xc695b, 0x89a5a, 0x89e5a, 0x8a014, 0x8a15a, 0x8a314, 0x8a45a, 0x312b, 0x322b, 0x342b,
  0x351a, 0x15055b, 0x10425b, 0x15095b, 0x131535, 0x10485b, 0x150d5b, 0x104a14, 0x104d14, 0x151a5b,
  0x151b5b, 0x151e5b, 0x15355b, 0x15365b, 0x15395b, 0x15445b, 0x15455b, 0x15485b, 0x15605b,
  0x15625b, 0x15665b, 0x15a75b, 0x10745b, 0x15a95b, 0x10765b, 0x15ae5b]

/-- The rows of successors by their numbers. -/
def gotos : Array (Array Nat) := #[
  gotos0, gotos1, gotos2, gotos3, gotos4, gotos5, gotos6, gotos7, gotos8, gotos9, gotos10, gotos11,
  gotos12, gotos13, gotos14, gotos15, gotos16, gotos17, gotos18, gotos19, gotos20, gotos21,
  gotos22, gotos23, gotos24, gotos25, gotos26, gotos27, gotos28, gotos29, gotos30, gotos31]

end UiHarness.Syntax.Automaton.Plain
